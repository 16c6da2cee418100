import NxTutors.Sync.Projection
import Mathlib.Data.List.Perm.Basic

/-!
# What the checksum tells

Two tutors of one id with equal checksums agree in all that is hashed: most fields of the row, and
the windows. They may still differ in the rest, and in the order of their lists, which is sorted
away. The rows that are written for them are equal exactly when they agree in that too.
-/

namespace NxTutors.Sync

open Text Scheduling
open MatchAgent (Time TuitionMode)

/-! ## Windows from their tuples -/

theorem digitChar_injOn : ∀ m < 10, ∀ n < 10, Nat.digitChar m = Nat.digitChar n → m = n := by
  decide

theorem twoDigits_inj {m n : Nat} (hm : m < 100) (hn : n < 100) (h : twoDigits m = twoDigits n) :
    m = n := by
  obtain ⟨htens, hones⟩ : Nat.digitChar (m / 10) = Nat.digitChar (n / 10) ∧
      Nat.digitChar (m % 10) = Nat.digitChar (n % 10) := by
    simpa [twoDigits] using h
  have h1 := digitChar_injOn _ (by omega) _ (by omega) htens
  have h2 := digitChar_injOn _ (by omega) _ (by omega) hones
  omega

theorem sixDigits_inj {m n : Nat} (hm : m < 1000000) (hn : n < 1000000)
    (h : sixDigits m = sixDigits n) : m = n := by
  obtain ⟨hfirst, hlast⟩ := List.append_inj h rfl
  obtain ⟨hhigh, hmid⟩ := List.append_inj hfirst rfl
  have h1 := twoDigits_inj (by omega) (by omega) hhigh
  have h2 := twoDigits_inj (by omega) (by omega) hmid
  have h3 := twoDigits_inj (by omega) (by omega) hlast
  omega

/-- The text of a time is the time's alone. -/
theorem isoformat_injective : Function.Injective isoformat := by
  rintro ⟨h1, m1, s1, u1⟩ ⟨h2, m2, s2, u2⟩ h
  have hchars := String.ofList_injective h
  obtain ⟨hhour, htail⟩ := List.append_inj hchars rfl
  obtain ⟨hminute, htail⟩ := List.append_inj (List.cons.inj htail).2 rfl
  obtain ⟨hsecond, hmicro⟩ := List.append_inj (List.cons.inj htail).2 rfl
  obtain rfl : h1 = h2 := Fin.ext (twoDigits_inj (by omega) (by omega) hhour)
  obtain rfl : m1 = m2 := Fin.ext (twoDigits_inj (by omega) (by omega) hminute)
  obtain rfl : s1 = s2 := Fin.ext (twoDigits_inj (by omega) (by omega) hsecond)
  obtain rfl : u1 = u2 := by
    dsimp only at hmicro
    split_ifs at hmicro with hu1 hu2
    · rw [hu1, hu2]
    · exact Fin.ext (sixDigits_inj u1.isLt u2.isLt (List.cons.inj hmicro).2)
  rfl

theorem slotTuple_injective : Function.Injective slotTuple := by
  rintro ⟨d1, s1, f1, _⟩ ⟨d2, s2, f2, _⟩ h
  obtain ⟨hday, htimes⟩ := Prod.mk.inj h
  obtain ⟨hstart, hfinish⟩ := Prod.mk.inj htimes
  obtain rfl : d1 = d2 := Fin.ext hday
  obtain rfl : s1 = s2 := isoformat_injective hstart
  obtain rfl : f1 = f2 := isoformat_injective hfinish
  rfl

theorem TutorCandidate.normal_windows (t : TutorCandidate) : Normal t.windows := by
  unfold TutorCandidate.windows
  cases t.availability with
  | none => exact List.Pairwise.nil
  | some s => exact s.normal

/-- **The windows are in the checksum**, although sorted as tuples. -/
theorem windows_eq {a b : TutorCandidate}
    (h : (material a).availability = (material b).availability) : a.windows = b.windows := by
  have hperm : (a.windows.map slotTuple).Perm (b.windows.map slotTuple) := by
    refine (List.perm_insertionSort tupleLE _).symm.trans ?_
    rw [show (a.windows.map slotTuple).insertionSort tupleLE
      = (b.windows.map slotTuple).insertionSort tupleLE from h]
    exact List.perm_insertionSort tupleLE _
  have hwindows : a.windows.Perm b.windows := (List.map_perm_map_iff slotTuple_injective).mp hperm
  rw [← merge_eq_self a.normal_windows]
  exact merge_eq_of_perm b.normal_windows hwindows

/-! ## Rows -/

/-- The timezone that the rows of the windows state, where there are any. -/
def TutorCandidate.zone (t : TutorCandidate) : Option String :=
  match t.availability with
  | none => none
  | some s => if s.windows = [] then none else some s.timezone

theorem zone_eq {t : TutorCandidate} {now : Time} :
    t.zone = ((availabilityRows t now).head?).map (·.timezone) := by
  unfold TutorCandidate.zone availabilityRows
  cases t.availability with
  | none => rfl
  | some s =>
    cases hwindows : s.windows with
    | nil => simp [hwindows]
    | cons w ws =>
      simp only [hwindows, reduceCtorEq, if_false, List.map_cons, List.head?_cons, Option.map_some]
      rfl

theorem availabilityRows_eq {t : TutorCandidate} {now : Time} :
    availabilityRows t now = t.windows.map (rowOf t.tutorId (t.zone.getD "") now) := by
  unfold TutorCandidate.zone availabilityRows TutorCandidate.windows
  cases t.availability with
  | none => rfl
  | some s =>
    by_cases hwindows : s.windows = []
    · simp [hwindows]
    · simp [hwindows]

/-- What is written for the two is the same. -/
def SameRows (sha256 : String → String) (a b : TutorCandidate) (now : Time) : Prop :=
  rowValues sha256 a now = rowValues sha256 b now ∧ availabilityRows a now = availabilityRows b now

/-- **The two agree in what is not hashed**: the fields that are left out, the order of the lists,
and the timezone of the windows. -/
structure SameUnhashed (a b : TutorCandidate) : Prop where
  publicRef : a.publicRef = b.publicRef
  avatarUrl : a.avatarUrl = b.avatarUrl
  locality : a.locality = b.locality
  district : a.district = b.district
  state : a.state = b.state
  feeLabel : a.fee.label = b.fee.label
  expertiseAvg : a.reviews.expertiseAvg = b.reviews.expertiseAvg
  patienceAvg : a.reviews.patienceAvg = b.reviews.patienceAvg
  reliabilityAvg : a.reviews.reliabilityAvg = b.reviews.reliabilityAvg
  communicationAvg : a.reviews.communicationAvg = b.reviews.communicationAvg
  latestReviewAt : a.reviews.latestReviewAt = b.reviews.latestReviewAt
  sourceUpdatedAt : a.sourceUpdatedAt = b.sourceUpdatedAt
  subjects : a.capabilities.subjects = b.capabilities.subjects
  boards : a.capabilities.boards = b.capabilities.boards
  classes : a.capabilities.classes = b.capabilities.classes
  modes : a.capabilities.modes = b.capabilities.modes
  zone : a.zone = b.zone

section Told

variable {sha256 : String → String} {a b : TutorCandidate} {now : Time}

/-- **Equal checksums are of equal material.** -/
theorem material_eq (hsha : Function.Injective sha256)
    (h : projectionChecksum sha256 a = projectionChecksum sha256 b) : material a = material b :=
  Material.chars_injective (String.ofList_injective (hsha h))

theorem value_injective : Function.Injective TuitionMode.value := by
  intro m n h
  cases m <;> cases n <;> first | rfl | exact absurd h (by decide)

/-- What is written differs in nothing that is not hashed. -/
theorem SameRows.unhashed (h : SameRows sha256 a b now) : SameUnhashed a b where
  publicRef := congrArg TutorRow.publicRef h.1
  avatarUrl := congrArg TutorRow.avatarUrl h.1
  locality := congrArg TutorRow.locality h.1
  district := congrArg TutorRow.district h.1
  state := congrArg TutorRow.state h.1
  feeLabel := congrArg TutorRow.feeLabel h.1
  expertiseAvg := congrArg TutorRow.expertiseAvg h.1
  patienceAvg := congrArg TutorRow.patienceAvg h.1
  reliabilityAvg := congrArg TutorRow.reliabilityAvg h.1
  communicationAvg := congrArg TutorRow.communicationAvg h.1
  latestReviewAt := congrArg TutorRow.latestReviewAt h.1
  sourceUpdatedAt := congrArg TutorRow.sourceUpdatedAt h.1
  subjects := congrArg TutorRow.subjects h.1
  boards := congrArg TutorRow.boards h.1
  classes := congrArg TutorRow.classes h.1
  modes := List.map_injective_iff.mpr value_injective (congrArg TutorRow.modes h.1)
  zone := by rw [@zone_eq a now, @zone_eq b now, h.2]

/-- **Equal checksums leave only what is not hashed.** -/
theorem sameRows_iff (hsha : Function.Injective sha256) (hid : a.tutorId = b.tutorId)
    (hsum : projectionChecksum sha256 a = projectionChecksum sha256 b) :
    SameRows sha256 a b now ↔ SameUnhashed a b := by
  refine ⟨SameRows.unhashed, fun h => ⟨?_, ?_⟩⟩
  · have hm := material_eq hsha hsum
    have hname : a.name = b.name := congrArg Material.name hm
    have hgender : a.gender = b.gender := congrArg Material.gender hm
    have hcity : a.city = b.city := congrArg Material.city hm
    have hpincode : a.pincode = b.pincode := congrArg Material.pincode hm
    have hexperience : a.experienceYears = b.experienceYears := congrArg Material.experience hm
    have heducation : a.education = b.education := congrArg Material.education hm
    have hprofile : a.profileSummary = b.profileSummary := congrArg Material.profile hm
    obtain ⟨hmin, hmax⟩ : a.fee.minimum = b.fee.minimum ∧ a.fee.maximum = b.fee.maximum :=
      Prod.mk.inj (congrArg Material.fee hm)
    obtain ⟨hcount, hrating⟩ : a.reviews.count = b.reviews.count ∧
        a.reviews.ratingAvg = b.reviews.ratingAvg := Prod.mk.inj (congrArg Material.reviews hm)
    simp only [rowValues, hid, h.publicRef, hname, hgender, h.avatarUrl, hcity, h.locality,
      h.district, h.state, hpincode, h.subjects, h.boards, h.classes, h.modes, hexperience,
      heducation, hprofile, hmin, hmax, h.feeLabel, hcount, hrating, h.expertiseAvg, h.patienceAvg,
      h.reliabilityAvg, h.communicationAvg, h.latestReviewAt, h.sourceUpdatedAt, hsum]
  · have hwindows := windows_eq (congrArg Material.availability (material_eq hsha hsum))
    rw [availabilityRows_eq, availabilityRows_eq, hwindows, h.zone, hid]

/-- **What the checksum tells** of two tutors of one id: with equal checksums, the rows are equal
just when the tutors agree in what is not hashed; and what reconciliation leaves as it is, of a
tutor whose row was written for the first and who is the second now, is right just then. -/
theorem told_by_checksum (hsha : Function.Injective sha256) (hid : a.tutorId = b.tutorId)
    {existing : String → Option String} {page : List TutorCandidate}
    (hstored : existing b.tutorId = some (projectionChecksum sha256 a)) (hpage : b ∈ page) :
    (projectionChecksum sha256 a = projectionChecksum sha256 b →
      (SameRows sha256 a b now ↔ SameUnhashed a b)) ∧
    ((b ∉ drifted sha256 existing page → SameRows sha256 a b now) ↔
      (projectionChecksum sha256 a = projectionChecksum sha256 b → SameUnhashed a b)) := by
  have hdrift : b ∉ drifted sha256 existing page ↔
      projectionChecksum sha256 a = projectionChecksum sha256 b := by
    rw [drifted, List.mem_filter, hstored]
    simp [hpage]
  refine ⟨sameRows_iff hsha hid, ?_⟩
  rw [hdrift]
  exact forall_congr' fun hsum => sameRows_iff hsha hid hsum

end Told

/-! ## Two tutors -/

/-- A tutor in a place. -/
def tutorIn (locality : String) : TutorCandidate where
  tutorId := "t1"
  publicRef := "dDEtbnh0"
  name := "Asha"
  locality := some locality
  capabilities := { subjects := ["maths"] }

/-- Of a tutor who has not changed, reconciliation leaves what is right. -/
theorem unchanged_told : (projectionChecksum id (tutorIn "Saket") =
      projectionChecksum id (tutorIn "Saket") →
    (SameRows id (tutorIn "Saket") (tutorIn "Saket") 0 ↔
      SameUnhashed (tutorIn "Saket") (tutorIn "Saket"))) ∧
    ((tutorIn "Saket" ∉ drifted id (fun _ => some (projectionChecksum id (tutorIn "Saket")))
        [tutorIn "Saket"] → SameRows id (tutorIn "Saket") (tutorIn "Saket") 0) ↔
      (projectionChecksum id (tutorIn "Saket") = projectionChecksum id (tutorIn "Saket") →
        SameUnhashed (tutorIn "Saket") (tutorIn "Saket"))) :=
  told_by_checksum Function.injective_id rfl rfl List.mem_cons_self

/-- **A tutor who has moved within the city has the same checksum**, and the row of before stays. -/
theorem moved_unseen : (tutorIn "Saket").tutorId = (tutorIn "Rohini").tutorId ∧
    ∀ sha256 : String → String,
      projectionChecksum sha256 (tutorIn "Saket") = projectionChecksum sha256 (tutorIn "Rohini") ∧
      ¬ SameRows sha256 (tutorIn "Saket") (tutorIn "Rohini") 0 := by
  refine ⟨rfl, fun sha256 => ⟨rfl, fun h => ?_⟩⟩
  have hlocality : some "Saket" = some "Rohini" := congrArg TutorRow.locality h.1
  exact absurd hlocality (by decide)

end NxTutors.Sync
