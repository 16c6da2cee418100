import NxTutors.Matching.Approvals
import NxTutors.Website.Records

/-!
# Two gates that should agree

An entry that is made only of claims the guard approved should pass the audit. What is said in fixed
words, in numbers, times and fees does. What is not chosen here may not: the name of a tutor, the
class, the board and the subject as the parent wrote them, and a place. So the gates agree exactly
if none of these, with the blanks around them, has in it what the data do not bear out
(`gates_agree_iff`).
-/

namespace NxTutors.Matching

open Text MatchAgent

/-! ## What is borne out -/

section BorneOut

variable {p : Platform} {m : Measures} {policy : ScoringPolicy} {t : TutorCandidate}
  {candidate : ScoredCandidate} {r : MatchRequirement} {label : Option String} {kind : ClaimKind}
  {sentence : Sentence} {scores : Dimension → Option SkillScore} {offset : String → Int}
  {slots : List Scheduling.TimeWindow}

/-- Where a rating is told, what is unsupported is about something else. -/
theorem unsupported_of_rated (hquotable : (scores .performance).any SkillScore.quotable = true)
    (hcount : t.reviews.count ≠ 0) : unsupported t scores ⊆ SCHEDULE_WORDS ++ OTHER_PHRASES := by
  intro phrase hphrase
  rcases of_mem_unsupported hphrase with ⟨h, -⟩ | ⟨-, hnot⟩ | h
  · exact List.mem_append_left _ h
  · rw [hquotable, decide_eq_true hcount] at hnot
    cases hnot
  · exact List.mem_append_right _ h

/-- Where slots are told, likewise. -/
theorem unsupported_of_slots (hquotable : (scores .availability).any SkillScore.quotable = true)
    (hdata : t.hasAvailabilityData = true) : unsupported t scores ⊆ RATING_WORDS ++ OTHER_PHRASES := by
  have hthere : (scores .availability).any (·.dataQuality ≠ .missing) = true := by
    cases hscore : scores .availability with
    | none =>
      rw [hscore] at hquotable
      cases hquotable
    | some s =>
      rw [hscore, Option.any_some, SkillScore.quotable, Bool.and_eq_true, decide_eq_true_eq]
        at hquotable
      refine decide_eq_true fun hmissing => hquotable.1 ?_
      rw [hmissing]
      decide
  intro phrase hphrase
  rcases of_mem_unsupported hphrase with ⟨-, hnot⟩ | ⟨h, -⟩ | h
  · rw [hthere, hdata] at hnot
    cases hnot
  · exact List.mem_append_left _ h
  · exact List.mem_append_right _ h

/-- **Slots can always be suggested**; there are none where nothing is known of the tutor's times.
-/
theorem offeredSlots_some : ∃ slots, offeredSlots offset t r = some slots ∧
    (slots ≠ [] → t.hasAvailabilityData = true) := by
  have hpos (value : Option Nat) {default : Nat} (hdefault : 0 < default) :
      0 < Scheduling.orDefault value default := by
    cases value with
    | none => exact hdefault
    | some n =>
      cases n with
      | zero => exact hdefault
      | succ n => exact Nat.succ_pos n
  unfold offeredSlots Scheduling.suggestedSlots
  cases havailability : t.availability with
  | none => exact ⟨[], rfl, fun h => absurd rfl h⟩
  | some schedule =>
    cases r.preferredSchedule with
    | none => exact ⟨[], rfl, fun h => absurd rfl h⟩
    | some parent =>
      simp only [Option.map_some]
      split
      · rename_i htruthy
        obtain ⟨slots, hslots, -⟩ := @Scheduling.of_suggestSlots
          ((Scheduling.toTimezone offset (scheduleOf parent) r.timezone).intersection
            (Scheduling.toTimezone offset (scheduleOf schedule) r.timezone))
          (Scheduling.orDefault r.sessionMinutes Scheduling.DEFAULT_SESSION_MINUTES)
          (Scheduling.orDefault r.sessionsPerWeek Scheduling.DEFAULT_SESSIONS_PER_WEEK)
          (hpos _ (by decide))
        refine ⟨slots, hslots, fun _ => ?_⟩
        rw [TutorCandidate.hasAvailabilityData, havailability]
        refine decide_eq_true fun hnil => ?_
        have hempty : (Scheduling.WeeklySchedule.make schedule.timezone []).truthy = false := rfl
        rw [scheduleOf, hnil, List.filterMap_nil, hempty] at htruthy
        cases htruthy
      · exact ⟨[], rfl, fun h => absurd rfl h⟩

/-- The times of a tutor may be told. -/
theorem hasAvailabilityData_of_slotsLabel (hslots : slots ≠ [] → t.hasAvailabilityData = true)
    {label : String} (h : slotsLabel slots = some label) : t.hasAvailabilityData = true := by
  refine hslots ?_
  rintro rfl
  cases h

/-- **What is known of an approved claim** has nothing unsupported in it. -/
theorem barred_of_approved (hlower : LowersWords p.toTables)
    (hfixed : ∀ x, ∀ c ∈ (m.fixed 1 x).toList, Figure c)
    (hfee : ∀ label ∈ t.fee.label, ∃ low high, label = formatFeeLabel low high)
    (hslots : slots ≠ [] → t.hasAvailabilityData = true) (hkind : kind ∈ PROPOSED)
    (hheard : kind ∉ [.name, .mode])
    (h : approvedOf (approvedClaims p m policy candidate
      (proposeClaims t candidate.scores r (slotsLabel slots))) kind = some sentence) :
    Barred p.toTables (unsupported t candidate.scores) (sentence.known m) := by
  have hall : unsupported t candidate.scores ⊆ ALL_PHRASES :=
    fun _ hphrase => mem_all_of_unsupported hphrase
  obtain ⟨claim, hclaim, hcheck, htold⟩ := of_approvedOf_eq hkind h
  have hquotable {dimension : Dimension} (hback : backingDimension claim.kind = some dimension)
      (hshown : dimension ∉ INTERNAL_ONLY_DIMENSIONS) :
      (candidate.scores dimension).any SkillScore.quotable = true :=
    (check_eq_none_iff hback hshown).mp hcheck
  have hsame := kind_of_claimOf hclaim
  subst htold
  cases kind with
  | studentClass =>
    rw [(of_classClaim hclaim).2.2]
    exact barred_fixed hlower hall (by simp [FIXED_WORDS] : "already teaches" ∈ FIXED_WORDS)
  | subject =>
    rw [(of_subjectClaim hclaim).2.2.2]
    exact barred_fixed hlower hall (by simp [FIXED_WORDS] : "teaches" ∈ FIXED_WORDS)
  | availability =>
    obtain ⟨label, hlabel, rfl⟩ := Option.map_eq_some_iff.mp hclaim
    obtain ⟨hlabel, -⟩ := Option.filter_eq_some_iff.mp hlabel
    exact barred_slots hlower (unsupported_of_slots (hquotable rfl (by decide))
      (hasAvailabilityData_of_slotsLabel hslots hlabel)) hlabel
  | locality =>
    have hbased : claim.told.known m = "based in" := by
      obtain ⟨proximity, -, hclaim⟩ := Option.bind_eq_some_iff.mp hclaim
      split_ifs at hclaim
      · cases hclaim
        rfl
      · cases hclaim
        rfl
    rw [hbased]
    exact barred_fixed hlower hall (by decide)
  | rating =>
    obtain ⟨performance, -, hclaim⟩ := Option.bind_eq_some_iff.mp hclaim
    obtain ⟨average, -, hclaim⟩ := Option.bind_eq_some_iff.mp hclaim
    split_ifs at hclaim with hcount
    cases hclaim
    exact barred_rated hlower (unsupported_of_rated (hquotable rfl (by decide)) hcount)
      (hfixed average) t.reviews.count
  | experience =>
    obtain ⟨performance, -, hclaim⟩ := Option.bind_eq_some_iff.mp hclaim
    obtain ⟨years, -, rfl⟩ := Option.map_eq_some_iff.mp hclaim
    have htext : (Sentence.experienced years).known m =
        toString years ++ " " ++ "years of teaching experience" := by
      rw [String.append_assoc]
      exact congrArg (toString years ++ ·) (by decide)
    dsimp only
    rw [htext]
    exact (barred_figures hlower hall (figure_toString years)).join hlower hall
      (barred_fixed hlower hall (by decide))
  | fee =>
    obtain ⟨negotiation, -, hclaim⟩ := Option.bind_eq_some_iff.mp hclaim
    obtain ⟨label, hlabel, rfl⟩ := Option.map_eq_some_iff.mp hclaim
    obtain ⟨low, high, rfl⟩ := hfee label (Option.filter_eq_some_iff.mp hlabel).1
    exact barred_figures hlower hall (figure_formatFeeLabel low high)
  | teachingStyle =>
    obtain ⟨personality, -, hclaim⟩ := Option.bind_eq_some_iff.mp hclaim
    split_ifs at hclaim
    cases hclaim
    exact barred_fixed hlower hall
      (by simp [FIXED_WORDS] : "matches the teaching style you asked for" ∈ FIXED_WORDS)
  | name => exact absurd List.mem_cons_self hheard
  | mode => exact absurd (List.mem_cons_of_mem _ List.mem_cons_self) hheard
  | profileUrl => cases hclaim
  | board => cases hclaim
  | distance => cases hclaim
  | verification => cases hclaim

end BorneOut

/-! ## Whether the gates agree -/

/-- The tutor is one of the feed: a record is made into a tutor with the same name, places and fee.
-/
def FromFeed (p : Website.FeedPlatform) (t : TutorCandidate) : Prop :=
  ∃ record stamp tutor, Website.toCandidate p record stamp = .ok tutor ∧ t.name = tutor.name ∧
    t.locality = tutor.locality ∧ t.city = tutor.city ∧ t.fee = tutor.fee

/-- **What is not chosen here is harmless**: nothing that the data do not bear out is in the name,
in the class with the board, in the subject if there is room for it, or in the place, the blanks
around them counted. -/
structure Unobjectionable (tables : Tables) (policy : ScoringPolicy) (t : TutorCandidate)
    (scores : Dimension → Option SkillScore) (r : MatchRequirement) : Prop where
  name : Silent tables (unsupported t scores) (t.name ++ " ")
  studentClass : ∀ text ∈ namedClass scores r,
    Silent tables (unsupported t scores) (" " ++ text ++ " ")
  subject : (namedClass scores r ≠ none → 2 ≤ policy.explanation.maxReasonsPerTutor) →
    ∀ text ∈ namedSubject scores r, Silent tables (unsupported t scores) (" " ++ text ++ " ")
  place : ∀ text ∈ namedPlace t scores, Silent tables (unsupported t scores) (" " ++ text)

theorem harmless_iff {tables : Tables} {policy : ScoringPolicy} {t : TutorCandidate}
    {scores : Dimension → Option SkillScore} {r : MatchRequirement} :
    Unobjectionable tables policy t scores r ↔ Silent tables (unsupported t scores) (t.name ++ " ") ∧
      ((∀ text ∈ namedClass scores r, Silent tables (unsupported t scores) (" " ++ text ++ " ")) ∧
        ((namedClass scores r ≠ none → 2 ≤ policy.explanation.maxReasonsPerTutor) →
          ∀ text ∈ namedSubject scores r,
            Silent tables (unsupported t scores) (" " ++ text ++ " "))) ∧
      ∀ text ∈ namedPlace t scores, Silent tables (unsupported t scores) (" " ++ text) :=
  ⟨fun h => ⟨h.name, ⟨h.studentClass, h.subject⟩, h.place⟩, fun h => ⟨h.1, h.2.1.1, h.2.1.2, h.2.2⟩⟩

/-- The fee of a tutor of the feed is a formatted one. -/
theorem FromFeed.label {p : Website.FeedPlatform} {t : TutorCandidate} (h : FromFeed p t) :
    ∀ label ∈ t.fee.label, ∃ low high, label = formatFeeLabel low high := by
  obtain ⟨record, stamp, tutor, hmade, -, -, -, hsame⟩ := h
  obtain ⟨publicRef, fee, reviews, availability, hparsed, hfields⟩ := Website.of_toCandidate hmade
  rw [hsame, hfields]
  exact label_of_parseTutorFee hparsed

/-- What an entry says is borne out if the claims that were approved are. -/
theorem barred_of_heard {tables : Tables} {phrases : List String} {m : Measures}
    {approved : List Claim} {entry : ShortlistEntry} {limit : Nat}
    (hlower : LowersWords tables) (hall : phrases ⊆ ALL_PHRASES)
    (happroved : ∀ kind ∈ PROPOSED, kind ∉ [.name, .mode] → ∀ sentence,
      approvedOf approved kind = some sentence → Barred tables phrases (sentence.known m))
    (hreasons : entry.reasons = (reasonSentences approved).take limit)
    (havailability : entry.availabilityLabel = approvedOf approved .availability)
    (hfeeLabel : entry.feeLabel = approvedOf approved .fee)
    (hplace : entry.localityLabel = approvedOf approved .locality) :
    ∀ sentence ∈ entry.heard, Barred tables phrases (sentence.known m) := by
  intro sentence hsentence
  rcases List.mem_append.mp hsentence with h | h
  · rw [hreasons] at h
    rcases of_mem_reasons (List.mem_of_mem_take h) with rfl | ⟨kind, hkind, h⟩
    · exact barred_fixed hlower hall (by simp [FIXED_WORDS] :
        "available for this requirement; details to be confirmed" ∈ FIXED_WORDS)
    · have horder : ∀ kind ∈ REASON_ORDER, kind ∈ PROPOSED ∧ kind ∉ [.name, .mode] := by decide
      exact happroved kind (horder kind hkind).1 (horder kind hkind).2 sentence h
  · have hlabel := List.reduceOption_mem_iff.mp h
    simp only [List.mem_cons, List.not_mem_nil, or_false] at hlabel
    rw [havailability, hfeeLabel, hplace] at hlabel
    rcases hlabel with h | h | h
    · exact happroved .availability (by decide) (by decide) sentence h.symm
    · exact happroved .fee (by decide) (by decide) sentence h.symm
    · exact happroved .locality (by decide) (by decide) sentence h.symm

/-- **The gates agree on an entry exactly if what is not chosen here is harmless.** -/
theorem gates_agree_iff (p : Website.FeedPlatform) (m : Measures) (offset : String → Int)
    (policy : ScoringPolicy) (rank : Nat) (t : TutorCandidate) (candidate : ScoredCandidate)
    (profileUrl : String) (r : MatchRequirement) (hlower : LowersWords p.toTables)
    (hfixed : ∀ x, ∀ c ∈ (m.fixed 1 x).toList, Figure c) (hfeed : FromFeed p t) :
    entryViolations p.toPlatform m offset policy rank t candidate profileUrl r = some [] ↔
      Unobjectionable p.toTables policy t candidate.scores r := by
  obtain ⟨slots, hoffered, hslots⟩ := @offeredSlots_some t r offset
  obtain ⟨approved, hdef⟩ : ∃ approved, approved = approvedClaims p.toPlatform m policy candidate
    (proposeClaims t candidate.scores r (slotsLabel slots)) := ⟨_, rfl⟩
  obtain ⟨entry, hentry⟩ : ∃ entry, entry = (buildEntry p.toPlatform m policy rank t candidate
    profileUrl r (slotsLabel slots)).1 := ⟨_, rfl⟩
  have hreasons : entry.reasons =
      (reasonSentences approved).take policy.explanation.maxReasonsPerTutor := by
    rw [hentry, hdef, buildEntry]
  have hall : unsupported t candidate.scores ⊆ ALL_PHRASES :=
    fun _ hphrase => mem_all_of_unsupported hphrase
  have happroved : ∀ kind ∈ PROPOSED, kind ∉ [.name, .mode] → ∀ sentence,
      approvedOf approved kind = some sentence →
        Barred p.toTables (unsupported t candidate.scores) (sentence.known m) := by
    intro kind hkind hheard sentence h
    rw [hdef] at h
    exact barred_of_approved hlower hfixed hfeed.label hslots hkind hheard h
  have hname : entry.name = t.name := by rw [hentry]; rfl
  have hplace : entry.localityLabel = approvedOf approved .locality := by rw [hentry, hdef, buildEntry]
  have havailability : entry.availabilityLabel = approvedOf approved .availability := by
    rw [hentry, hdef, buildEntry]
  have hfeeLabel : entry.feeLabel = approvedOf approved .fee := by rw [hentry, hdef, buildEntry]
  have hknown := barred_of_heard hlower hall happroved hreasons havailability hfeeLabel hplace
  have hothers : ∀ kind ∈ [ClaimKind.rating, .experience, .teachingStyle, .availability, .fee],
      (approvedOf approved kind).bind Sentence.unknown = none := by
    rw [hdef]
    exact fun kind hkind => unknown_others hkind
  have hclass : approvedOf approved .studentClass ≠ none ↔ namedClass candidate.scores r ≠ none := by
    rw [hdef]
    exact approved_class_iff
  have htold := @unknown_class p.toPlatform m policy t candidate r (slotsLabel slots)
  have htaught := @unknown_subject p.toPlatform m policy t candidate r (slotsLabel slots)
  have hbased := @unknown_place p.toPlatform m policy t candidate r (slotsLabel slots)
  rw [← hdef] at htold htaught hbased
  have hsilent := @silent_rendered_iff p.toTables m (unsupported t candidate.scores) entry hlower hall
    hknown (by rw [havailability]; exact hothers _ (by decide))
    (by rw [hfeeLabel]; exact hothers _ (by decide))
  have hunknown := @forall_reasons_iff approved _ policy.explanation.maxReasonsPerTutor_mem.1
    (fun unknown => Silent p.toTables (unsupported t candidate.scores) (" " ++ unknown ++ " "))
    fun kind hkind => hothers kind (List.mem_of_mem_take (i := 3) hkind)
  rw [hname, hreasons, hunknown, hplace, htold, htaught, hbased, hclass, ← harmless_iff] at hsilent
  rw [← hsilent, entryViolations, hoffered, Option.map_some, Option.some_inj]
  dsimp only
  rw [← hentry]
  exact assertNoFabrication_eq_nil_iff

/-! ### Two names -/

theorem figure_fixedText (digits : Nat) (x : Rat) : ∀ c ∈ (fixedText digits x).toList, Figure c := by
  have hpoint : Figure '.' := by decide
  have hzero : Figure '0' := by decide
  intro c hc
  simp only [fixedText, String.toList_append, List.mem_append, String.toList_ofList,
    List.mem_reverse] at hc
  rcases hc with (hc | hc) | hc
  · exact figure_toString _ c hc
  · rw [List.mem_singleton.mp hc]
    exact hpoint
  · rcases List.mem_append.mp (List.mem_of_mem_take hc) with hc | hc
    · exact figure_toString _ c (List.mem_reverse.mp hc)
    · rw [(List.mem_replicate.mp hc).2]
      exact hzero

/-- A tutor of whom nothing but the name is known. -/
def onlyNamed (name : String) : TutorCandidate where
  tutorId := "t1"
  publicRef := "dDEtbnh0"
  name := name

/-- Nothing is scored. -/
def unscored : ScoredCandidate where
  scores _ := none
  finalScore := 1 / 2

/-- The feed has such a tutor for every name that it leaves as it is. -/
theorem onlyNamed_fromFeed {name : Website.AtMost 200}
    (hfits : ∀ record ∈ (Website.onePage name).tutors.val, Website.Fits Website.plain record)
    (hname : (Website.cleanedOrNone Website.plain (some name)).getD "Tutor" = name.val) :
    FromFeed Website.plain (onlyNamed name.val) := by
  obtain ⟨record, hmem, hbudget, hlocality, hcity, hrecord⟩ :
      ∃ record ∈ (Website.onePage name).tutors.val, record.budget = none ∧ record.locality = none ∧
        record.city = none ∧ record.name = some name :=
    ⟨_, List.mem_cons_self, rfl, rfl, rfl, rfl⟩
  obtain ⟨tutor, hmade⟩ := (@Website.toCandidate_ok_iff Website.plain record 0
    (Website.ordered_onePage name record hmem)).mpr (hfits record hmem)
  obtain ⟨publicRef, fee, reviews, availability, hfee, hfields⟩ := Website.of_toCandidate hmade
  have hblank : parseTutorFee Website.plain.toFeePlatform "" = some {} := by decide
  have hempty {n : Nat} : Website.cleaned Website.plain (none : Option (Website.AtMost n)) = "" := rfl
  have hnothing {n : Nat} :
      Website.cleanedOrNone Website.plain (none : Option (Website.AtMost n)) = none := rfl
  rw [hbudget, hempty, hblank] at hfee
  refine ⟨record, 0, tutor, hmade, ?_, ?_, ?_, ?_⟩
  · rw [hfields, Website.tutorFields, hrecord]
    dsimp only [onlyNamed]
    rw [hname]
  · rw [hfields, Website.tutorFields, hlocality, hnothing]
    rfl
  · rw [hfields, Website.tutorFields, hcity, hnothing]
    rfl
  · rw [hfields, Website.tutorFields]
    exact Option.some.inj hfee

theorem asha_fromFeed : FromFeed Website.plain (onlyNamed "Asha") := by
  refine @onlyNamed_fromFeed ⟨"Asha", by decide⟩ (fun record hrecord => ?_) (by decide)
  obtain rfl := List.mem_singleton.mp hrecord
  exact ⟨by decide, by decide, by decide, by decide,
    by decide, fun w hw => absurd hw List.not_mem_nil⟩

theorem simon_fromFeed : FromFeed Website.plain (onlyNamed "Simon") := by
  refine @onlyNamed_fromFeed ⟨"Simon", by decide⟩ (fun record hrecord => ?_) (by decide)
  obtain rfl := List.mem_singleton.mp hrecord
  exact ⟨by decide, by decide, by decide, by decide,
    by decide, fun w hw => absurd hw List.not_mem_nil⟩

/-- Asha is harmless. -/
theorem asha_agreed : entryViolations Website.plain.toPlatform onPaper.toMeasures (fun _ => 0)
    basePolicy 1 (onlyNamed "Asha") unscored "/tutors/t1" cbseClassSix = some [] := by
  refine (gates_agree_iff Website.plain onPaper.toMeasures (fun _ => 0) basePolicy 1
    (onlyNamed "Asha") unscored "/tutors/t1" cbseClassSix lowersWords_ascii (figure_fixedText 1)
    asha_fromFeed).mpr ⟨?_, nofun, fun _ => nofun, nofun⟩
  unfold Silent
  decide

/-- **Simon is not**: the end of the name is read as a day. -/
theorem simon_refused : FromFeed Website.plain (onlyNamed "Simon") ∧
    rendered onPaper.toMeasures (buildEntry Website.plain.toPlatform onPaper.toMeasures basePolicy 1
        (onlyNamed "Simon") unscored "/tutors/t1" cbseClassSix none).1 =
      "Simon available for this requirement; details to be confirmed   " ∧
    entryViolations Website.plain.toPlatform onPaper.toMeasures (fun _ => 0) basePolicy 1
        (onlyNamed "Simon") unscored "/tutors/t1" cbseClassSix =
      some ["schedule_claimed_without_availability_data"] :=
  ⟨simon_fromFeed, by decide, by decide⟩

end NxTutors.Matching
