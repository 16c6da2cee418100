import NxTutors.Website.Feed

/-!
# Records that stop the feed

The schema lets through more than the contract of a tutor: a name may be longer, and so may a city,
a district and a state; the public reference grows with the bytes of the id, not with its
characters; and a time may be written with digits that are not read. Everything else is within its
bounds, whatever the record says. So a record is made into a tutor exactly if it fits
(`toCandidate_ok_iff`), and one that does not takes its page with it.
-/

namespace NxTutors.Website

open Text Scheduling
open MatchAgent (Time)
open Matching (parseExperienceYears parseTutorFee parseTutorFee_isSome roundTo_mem)

/-! ## What may be raised -/

section Raising

variable {ε α β : Type}

theorem of_bind_ok {x : Except ε α} {f : α → Except ε β} {b : β} (h : x >>= f = .ok b) :
    ∃ a, x = .ok a ∧ f a = .ok b := by
  cases x with
  | error e => cases h
  | ok a => exact ⟨a, rfl, h⟩

/-- Nothing is raised by two steps if by neither. -/
theorem ok_bind_iff {x : Except ε α} {f : α → Except ε β} :
    (∃ b, (x >>= f) = .ok b) ↔ ∃ a, x = .ok a ∧ ∃ b, f a = .ok b := by
  cases x with
  | error e =>
    constructor
    · rintro ⟨b, h⟩
      cases h
    · rintro ⟨a, h, -⟩
      cases h
  | ok a =>
    constructor
    · rintro ⟨b, h⟩
      exact ⟨a, rfl, b, h⟩
    · rintro ⟨a', heq, h⟩
      cases heq
      exact h

/-- By the list: nothing is raised on the way if nothing is anywhere. -/
theorem ok_mapM_iff {f : α → Except ε β} : ∀ {xs : List α},
    (∃ ys, xs.mapM f = .ok ys) ↔ ∀ x ∈ xs, ∃ y, f x = .ok y := by
  intro xs
  induction xs with
  | nil => exact ⟨fun _ _ h => absurd h List.not_mem_nil, fun _ => ⟨[], rfl⟩⟩
  | cons x xs ih =>
    rw [List.mapM_cons, ok_bind_iff, List.forall_mem_cons, ← ih]
    constructor
    · rintro ⟨y, hy, hrest⟩
      obtain ⟨ys, hys, -⟩ := ok_bind_iff.mp hrest
      exact ⟨⟨y, hy⟩, ys, hys⟩
    · rintro ⟨⟨y, hy⟩, ys, hys⟩
      exact ⟨y, hy, ok_bind_iff.mpr ⟨ys, hys, _, rfl⟩⟩

end Raising

/-! ## Times -/

theorem isDigit_iff {c : Char} : c.isDigit = true ↔ 48 ≤ c.toNat ∧ c.toNat ≤ 57 := by
  unfold Char.isDigit
  rw [Bool.and_eq_true, decide_eq_true_eq, decide_eq_true_eq]
  exact Iff.rfl

/-- All its digits, which are all but the colon, are ASCII. -/
def AsciiDigits (s : String) : Prop := ∀ c ∈ s.toList.eraseIdx 2, c.isDigit = true

/-- A time of the feed is read exactly if its digits are ASCII. -/
theorem fromIsoformat_ok_iff {t : Tables} {s : String} (h : clockPattern t s = true) :
    (∃ time, fromIsoformat s = .ok time) ↔ AsciiDigits s := by
  unfold clockPattern at h
  split at h
  · rename_i a b c d hchars
    simp only [Bool.and_eq_true, Bool.or_eq_true, decide_eq_true_eq] at h
    obtain ⟨⟨hhour, hc⟩, -⟩ := h
    have hc₁ : 48 ≤ c.toNat := hc.1
    have hc₂ : c.toNat ≤ 53 := hc.2
    have hascii : AsciiDigits s ↔ [a, b, c, d].all Char.isDigit = true := by
      rw [AsciiDigits, hchars, List.all_eq_true]
      rfl
    have hread : fromIsoformat s =
        if [a, b, c, d].all Char.isDigit ∧
            10 * (a.toNat - '0'.toNat) + (b.toNat - '0'.toNat) < 24 ∧
            10 * (c.toNat - '0'.toNat) + (d.toNat - '0'.toNat) < 60 then
          .ok (.ofParts (10 * (a.toNat - '0'.toNat) + (b.toNat - '0'.toNat))
            (10 * (c.toNat - '0'.toNat) + (d.toNat - '0'.toNat)))
        else .error (.valueError ("Invalid isoformat string: '" ++ s ++ "'")) := by
      unfold fromIsoformat
      rw [hchars]
      rfl
    rw [hascii, hread]
    constructor
    · rintro ⟨time, htime⟩
      split at htime
      · rename_i hread
        exact hread.1
      · cases htime
    · intro hall
      have hdigits : ∀ x ∈ [a, b, c, d], 48 ≤ x.toNat ∧ x.toNat ≤ 57 := fun x hx =>
        isDigit_iff.mp (List.all_eq_true.mp hall x hx)
      have hb := hdigits b (by simp)
      have hd := hdigits d (by simp)
      have hhours : 10 * (a.toNat - '0'.toNat) + (b.toNat - '0'.toNat) < 24 := by
        have hzero : '0'.toNat = 48 := rfl
        rcases hhour with ⟨rfl | rfl, -⟩ | ⟨⟨rfl, -⟩, hb'⟩
        · have : '0'.toNat = 48 := rfl
          omega
        · have : '1'.toNat = 49 := rfl
          omega
        · have : '2'.toNat = 50 := rfl
          have hb₂ : b.toNat ≤ 51 := hb'
          omega
      have hminutes : 10 * (c.toNat - '0'.toNat) + (d.toNat - '0'.toNat) < 60 := by
        have hzero : '0'.toNat = 48 := rfl
        omega
      exact ⟨_, if_pos ⟨hall, hhours, hminutes⟩⟩
  · cases h

/-- A window ends after it starts, as far as it can be read. Midnight as an end is the end of the
day. -/
def FeedWindow.Ordered {t : Tables} (w : FeedWindow t) : Prop :=
  ∀ start finish, fromIsoformat w.start.val = .ok start → fromIsoformat w.finish.val = .ok finish →
    start.minutes < endOfDay finish

theorem FeedWindow.read_ok_iff {t : Tables} {w : FeedWindow t} (h : w.Ordered) :
    (∃ window, w.read = .ok window) ↔ AsciiDigits w.start.val ∧ AsciiDigits w.finish.val := by
  rw [← fromIsoformat_ok_iff w.start.property, ← fromIsoformat_ok_iff w.finish.property,
    FeedWindow.read, ok_bind_iff]
  constructor
  · rintro ⟨start, hstart, hrest⟩
    obtain ⟨finish, hfinish, -⟩ := ok_bind_iff.mp hrest
    exact ⟨⟨start, hstart⟩, finish, hfinish⟩
  · rintro ⟨⟨start, hstart⟩, finish, hfinish⟩
    refine ⟨start, hstart, ok_bind_iff.mpr ⟨finish, hfinish, ?_⟩⟩
    exact ⟨_, by rw [timeWindow, TimeWindow.make?, dif_pos (h start finish hstart hfinish)]⟩

/-! ## The other fields -/

section Fields

variable {p : FeedPlatform}

/-- The reviews are always within their bounds, which rounding does not leave. -/
theorem reviews_ok (row : FeedReviews) : ∃ r, reviews row = .ok r := by
  have hrated (value : Option Rating) : rated (round value) = true := by
    cases value with
    | none => rfl
    | some x =>
      exact decide_eq_true (roundTo_mem (l := 0) (h := 500) (by norm_num) (by norm_num) x.property)
  refine ⟨_, dif_pos (failing_eq_nil_iff.mpr ?_)⟩
  simp [hrated]

/-- Every budget is read as some fee. -/
theorem tutorFee_ok (budget : String) : ∃ fee, tutorFee p budget = .ok fee := by
  obtain ⟨fee, hfee⟩ := Option.isSome_iff_exists.mp (parseTutorFee_isSome p.toFeePlatform budget)
  exact ⟨fee, by rw [tutorFee, hfee]⟩

/-- **The length of a public reference** is told by the bytes of the id. -/
theorem encodePublicRef_ok {userId : String} (h : 1 ≤ userId.length) :
    ∃ publicRef, encodePublicRef userId = .ok publicRef ∧
      (publicRef.length ≤ 256 ↔ userId.utf8ByteSize ≤ 188) := by
  have hne : userId ≠ "" := by
    rintro rfl
    exact absurd h (by decide)
  refine ⟨_, if_neg hne, ?_⟩
  have hbytes : (userId ++ "-nxt").toUTF8.data.toList.length = userId.utf8ByteSize + 4 := by
    have hsize : (userId ++ "-nxt").toUTF8.size = (userId ++ "-nxt").utf8ByteSize :=
      String.size_toByteArray
    rw [Array.length_toList, ← ByteArray.size, hsize, String.utf8ByteSize_append]
    rfl
  rw [String.length_ofList, length_urlSafe, hbytes]
  omega

/-- Cleaning keeps a text of the feed within its bound. -/
theorem length_cleaned_le {n : Nat} (value : Option (AtMost n)) : (cleaned p value).length ≤ n := by
  cases value with
  | none => exact Nat.zero_le _
  | some s => exact (length_clean_le p.toTables s.val).trans s.property

theorem atMost_cleanedOrNone {n k : Nat} {value : Option (AtMost n)} :
    atMost k (cleanedOrNone p value) = true ↔ (cleaned p value).length ≤ k := by
  unfold cleanedOrNone
  split
  · rename_i hempty
    rw [hempty]
    exact iff_of_true rfl (Nat.zero_le _)
  · exact decide_eq_true_iff

theorem atMost_take {s : String} {n : Nat} :
    atMost n ((some (Text.take s n)).filter (· ≠ "")) = true := by
  have hlength : (Text.take s n).length ≤ n := by
    rw [Text.take, String.length_ofList]
    exact List.length_take_le _ _
  by_cases h : Text.take s n = ""
  · simp [atMost, h]
  · simp [atMost, h, hlength]

theorem gender_atMost (value : Option (AtMost 20)) : atMost 16 (gender p value) = true := by
  unfold gender
  dsimp only
  split_ifs <;> rfl

theorem pincode_atMost (value : Option (AtMost 20)) : atMost 12 (pincode p value) = true := by
  unfold pincode
  dsimp only
  split
  · rename_i hsix
    refine decide_eq_true ?_
    omega
  · rfl

theorem experience_atMost (raw : String) :
    (parseExperienceYears p.toPlatform raw).all (· ≤ 70) = true := by
  unfold parseExperienceYears
  split
  · rfl
  · rw [Option.all_eq_true]
    intro years hyears
    exact (Option.mem_filter_iff.mp hyears).2

end Fields

/-! ## Records -/

section Records

variable (p : FeedPlatform)

/-- The windows of a record. -/
def FeedTutor.windows {t : Tables} (record : FeedTutor t) : List (FeedWindow t) :=
  match record.availability with
  | none => []
  | some row => row.windows.val

/-- All windows end after they start. -/
def FeedTutor.Ordered {t : Tables} (record : FeedTutor t) : Prop := ∀ w ∈ record.windows, w.Ordered

/-- **The record fits into the contract of a tutor.** -/
structure Fits (record : FeedTutor p.toTables) : Prop where
  userId : record.userId.val.utf8ByteSize ≤ 188
  name : (cleaned p record.name).length ≤ 160
  city : (cleaned p record.city).length ≤ 80
  district : (cleaned p record.district).length ≤ 80
  state : (cleaned p record.state).length ≤ 80
  times : ∀ w ∈ record.windows, AsciiDigits w.start.val ∧ AsciiDigits w.finish.val

variable {p} {record : FeedTutor p.toTables} {stamp : Time}

/-- A schedule is made exactly if all times can be read. -/
theorem availability_ok_iff (h : record.Ordered) :
    (∃ a, availability record.availability = .ok a) ↔
      ∀ w ∈ record.windows, AsciiDigits w.start.val ∧ AsciiDigits w.finish.val := by
  unfold FeedTutor.Ordered FeedTutor.windows at h
  unfold FeedTutor.windows
  cases hrow : record.availability with
  | none => exact ⟨fun _ _ hw => absurd hw List.not_mem_nil, fun _ => ⟨none, rfl⟩⟩
  | some row =>
    rw [hrow] at h
    dsimp only at h ⊢
    rw [availability]
    split
    · rename_i hnil
      rw [hnil]
      exact ⟨fun _ _ hw => absurd hw List.not_mem_nil, fun _ => ⟨none, rfl⟩⟩
    · have hread : (∃ windows, row.windows.val.mapM FeedWindow.read = .ok windows) ↔
          ∀ w ∈ row.windows.val, AsciiDigits w.start.val ∧ AsciiDigits w.finish.val := by
        rw [ok_mapM_iff]
        exact forall₂_congr fun w hw => FeedWindow.read_ok_iff (h w hw)
      rw [ok_bind_iff, ← hread]
      exact ⟨fun ⟨windows, hwindows, _⟩ => ⟨windows, hwindows⟩,
        fun ⟨windows, hwindows⟩ => ⟨windows, hwindows, _, rfl⟩⟩

/-- Of all the bounds, these may be exceeded. -/
theorem checks_tutorFields {publicRef : String} {fee : Matching.FeeBand} {r : ReviewAggregate}
    {a : Option WeeklySchedule} :
    failing (tutorFields p record stamp publicRef fee r a).checks = [] ↔
      publicRef.length ≤ 256 ∧ (cleaned p record.name).length ≤ 160 ∧
        (cleaned p record.city).length ≤ 80 ∧ (cleaned p record.district).length ≤ 80 ∧
          (cleaned p record.state).length ≤ 80 := by
  have hid : atMost 128 (some record.userId.val) = true :=
    decide_eq_true (record.userId.property.2.trans (by decide))
  have href : atMost 256 (some publicRef) = true ↔ publicRef.length ≤ 256 := decide_eq_true_iff
  have hname : atMost 160 (some ((cleanedOrNone p record.name).getD "Tutor")) = true ↔
      (cleaned p record.name).length ≤ 160 := by
    unfold cleanedOrNone
    split
    · rename_i hempty
      rw [hempty]
      exact iff_of_true rfl (Nat.zero_le _)
    · exact decide_eq_true_iff
  have havatar : atMost 512 (cleanedOrNone p record.avatar) = true :=
    atMost_cleanedOrNone.mpr ((length_cleaned_le record.avatar).trans (by decide))
  have hlocality : atMost 120 (cleanedOrNone p record.locality) = true :=
    atMost_cleanedOrNone.mpr (length_cleaned_le record.locality)
  rw [failing_eq_nil_iff, TutorFields.checks]
  simp only [List.forall_mem_cons, tutorFields, hid, href, hname, gender_atMost, havatar,
    atMost_cleanedOrNone, hlocality, pincode_atMost, experience_atMost, atMost_take, true_and]
  simp

/-- **A record is made into a tutor exactly if it fits.** -/
theorem toCandidate_ok_iff (h : record.Ordered) :
    (∃ tutor, toCandidate p record stamp = .ok tutor) ↔ Fits p record := by
  obtain ⟨publicRef, href, hlength⟩ := encodePublicRef_ok record.userId.property.1
  obtain ⟨fee, hfee⟩ := tutorFee_ok (p := p) (cleaned p record.budget)
  obtain ⟨r, hreviews⟩ := reviews_ok record.reviews
  have hmake (a : Option WeeklySchedule) :
      (∃ tutor, TutorCandidate.make (tutorFields p record stamp publicRef fee r a) = .ok tutor) ↔
        failing (tutorFields p record stamp publicRef fee r a).checks = [] := by
    unfold TutorCandidate.make
    split
    · rename_i hvalid
      exact iff_of_true ⟨_, rfl⟩ hvalid
    · rename_i hinvalid
      exact iff_of_false (fun ⟨_, h⟩ => by cases h) hinvalid
  have hsteps : (∃ tutor, toCandidate p record stamp = .ok tutor) ↔
      ∃ a, availability record.availability = .ok a ∧ ∃ tutor,
        TutorCandidate.make (tutorFields p record stamp publicRef fee r a) = .ok tutor := by
    rw [toCandidate, href, hfee, hreviews]
    change (∃ tutor, (availability record.availability >>= fun a =>
      TutorCandidate.make (tutorFields p record stamp publicRef fee r a)) = .ok tutor) ↔ _
    exact ok_bind_iff
  rw [hsteps]
  constructor
  · rintro ⟨a, ha, htutor⟩
    obtain ⟨hshort, hname, hcity, hdistrict, hstate⟩ := checks_tutorFields.mp ((hmake a).mp htutor)
    exact ⟨hlength.mp hshort, hname, hcity, hdistrict, hstate, (availability_ok_iff h).mp ⟨a, ha⟩⟩
  · intro hfits
    obtain ⟨a, ha⟩ := (availability_ok_iff h).mpr hfits.times
    exact ⟨a, ha, (hmake a).mpr (checks_tutorFields.mpr
      ⟨hlength.mpr hfits.userId, hfits.name, hfits.city, hfits.district, hfits.state⟩)⟩

/-- What a tutor of the feed is made with. -/
theorem of_toCandidate {tutor : TutorCandidate} (h : toCandidate p record stamp = .ok tutor) :
    ∃ publicRef fee reviews availability,
      parseTutorFee p.toFeePlatform (cleaned p record.budget) = some fee ∧
      tutor.toTutorFields = tutorFields p record stamp publicRef fee reviews availability := by
  obtain ⟨publicRef, -, h⟩ := of_bind_ok h
  obtain ⟨fee, hfee, h⟩ := of_bind_ok h
  obtain ⟨reviews, -, h⟩ := of_bind_ok h
  obtain ⟨availability, -, h⟩ := of_bind_ok h
  refine ⟨publicRef, fee, reviews, availability, ?_, ?_⟩
  · unfold tutorFee at hfee
    cases hparsed : parseTutorFee p.toFeePlatform (cleaned p record.budget) with
    | none =>
      rw [hparsed] at hfee
      cases hfee
    | some band =>
      rw [hparsed] at hfee
      cases hfee
      rfl
  · unfold TutorCandidate.make at h
    split at h
    · cases h
      rfl
    · cases h

/-- **A page is made into tutors exactly if all its records fit**: nothing but the unavailable feed
is raised by a fetch then, and something else is otherwise. -/
theorem fetchPage_unavailable_iff {page : FeedPage p.toTables}
    (h : ∀ record ∈ page.tutors.val, record.Ordered) :
    (∀ e, fetchPage p (.page page) stamp = .error e → ∃ reason, e = .feedUnavailable reason) ↔
      ∀ record ∈ page.tutors.val, Fits p record := by
  have hall : (∃ tutors, page.tutors.val.mapM (toCandidate p · stamp) = .ok tutors) ↔
      ∀ record ∈ page.tutors.val, Fits p record := by
    rw [ok_mapM_iff]
    exact forall₂_congr fun record hrecord => toCandidate_ok_iff (h record hrecord)
  rw [← hall]
  cases hrun : page.tutors.val.mapM (toCandidate p · stamp) with
  | ok tutors =>
    refine iff_of_true (fun e he => ?_) ⟨tutors, rfl⟩
    rw [fetchPage, hrun] at he
    cases he
  | error raised =>
    refine iff_of_false (fun hunavailable => ?_) fun ⟨_, h⟩ => by cases h
    obtain ⟨reason, hreason⟩ := hunavailable (.other raised) (by rw [fetchPage, hrun])
    cases hreason

end Records

/-! ## The feed -/

section Feed

variable (p : FeedPlatform)

/-- **One record does not stop the feed, if it fits.** For records whose windows end after they
start: each is made into a tutor exactly if it fits; and a fetch of a page fails only with the
unavailable feed exactly if all records of the page fit. -/
theorem records_converted_iff (page : FeedPage p.toTables) (stamp : Time)
    (h : ∀ record ∈ page.tutors.val, record.Ordered) :
    (∀ record ∈ page.tutors.val,
      (∃ tutor, toCandidate p record stamp = .ok tutor) ↔ Fits p record) ∧
    ((∀ e, fetchPage p (.page page) stamp = .error e → ∃ reason, e = .feedUnavailable reason) ↔
      ∀ record ∈ page.tutors.val, Fits p record) :=
  ⟨fun record hrecord => toCandidate_ok_iff (h record hrecord), fetchPage_unavailable_iff h⟩

/-! ### Two names -/

/-- On ASCII, and with figures read as they stand. -/
def plain : FeedPlatform :=
  { Matching.ascii with
    rounded := fun figure thousands =>
      (figure.takeWhile (· ≠ '.')).foldl (fun n c => 10 * n + (c.toNat - '0'.toNat)) 0 *
        if thousands then 1000 else 1
    isDigitOf := Char.isDigit }

/-- A page of one record, with a name and nothing else. -/
def onePage (name : AtMost 200) : FeedPage plain.toTables where
  tutors := ⟨[{ userId := ⟨"t1", by decide⟩, name := some name }], Nat.succ_pos 499⟩

theorem ordered_onePage (name : AtMost 200) :
    ∀ record ∈ (onePage name).tutors.val, record.Ordered := by
  intro record hrecord
  obtain rfl := List.mem_singleton.mp hrecord
  exact fun w hw => absurd hw List.not_mem_nil

/-- A short name does no harm. -/
theorem asha_converted :
    (∀ record ∈ (onePage ⟨"Asha", by decide⟩).tutors.val,
      (∃ tutor, toCandidate plain record 0 = .ok tutor) ↔ Fits plain record) ∧
    ((∀ e, fetchPage plain (.page (onePage ⟨"Asha", by decide⟩)) 0 = .error e →
        ∃ reason, e = .feedUnavailable reason) ↔
      ∀ record ∈ (onePage ⟨"Asha", by decide⟩).tutors.val, Fits plain record) :=
  records_converted_iff plain (onePage ⟨"Asha", by decide⟩) 0 (ordered_onePage _)

/-- A name of 161 characters. -/
def longName : AtMost 200 :=
  ⟨String.ofList (List.replicate 161 'a'), by
    rw [String.length_ofList, List.length_replicate]
    decide⟩

/-- **A name that the schema accepts stops the page.** -/
theorem long_name_raised : (∀ record ∈ (onePage longName).tutors.val, record.Ordered ∧
      ¬ ∃ tutor, toCandidate plain record 0 = .ok tutor) ∧
    ¬ ∀ e, fetchPage plain (.page (onePage longName)) 0 = .error e →
      ∃ reason, e = .feedUnavailable reason := by
  have hordered := ordered_onePage longName
  have hlong : ¬ (cleaned plain (some longName)).length ≤ 160 := by decide +kernel
  have hunfit : ∀ record ∈ (onePage longName).tutors.val, ¬ Fits plain record := by
    intro record hrecord hfits
    obtain rfl := List.mem_singleton.mp hrecord
    exact hlong hfits.name
  refine ⟨fun record hrecord => ⟨hordered record hrecord, fun htutor =>
    hunfit record hrecord ((toCandidate_ok_iff (hordered record hrecord)).mp htutor)⟩, fun h => ?_⟩
  have hfits := (fetchPage_unavailable_iff hordered).mp h
  exact hunfit _ List.mem_cons_self (hfits _ List.mem_cons_self)

end Feed

end NxTutors.Website
