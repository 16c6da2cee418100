import NxTutors.DemoAgent.Commands
import Mathlib.Data.List.Sort

/-!
# The options shown and the tutor selected

The database keeps a row for each rank of each match session, and gives back the session that was
captured last, in the order of the ranks, without the rows it can no longer read. What the parent
is shown carries the rank of each candidate, on the button and before the name. What is looked
up when he answers is the place in that list.

The two are the same as long as no row before it is missing. Ranks go from one to three, so there
is one way to be wrong: the first row is missing and the other two are there, and then who
answers 2 gets the third (`shown_is_selected_iff`).
-/

namespace NxTutors.DemoAgent

open Effect Store
open Text (Tables)

/-! ## The stored candidates -/

/-- A row of `dcc_tutor_candidate_snapshots`. -/
structure CandidateRow where
  conversationRef : String
  matchSessionId : String
  rank : Nat
  tutorRef : String
  displayName : String
  profileUrl : String
  /-- the candidate as it was saved -/
  evidence : TutorCandidate
  freshness : Freshness
  capturedAt : Time
  deriving DecidableEq

/-- `dcc_candidate_session_rank_uidx`. -/
abbrev CandidateRow.key (r : CandidateRow) : String × String × Nat :=
  (r.conversationRef, r.matchSessionId, r.rank)

/-- `save_candidates(conversation_ref=…, match_session_id=…, candidates=…, captured_at=…)`. -/
structure SaveCandidates where
  conversationRef : String
  matchSessionId : String
  candidates : List TutorCandidate
  capturedAt : Time

/-- The row to be inserted for a candidate. -/
def SaveCandidates.row (save : SaveCandidates) (c : TutorCandidate) : CandidateRow where
  conversationRef := save.conversationRef
  matchSessionId := save.matchSessionId
  rank := c.rank
  tutorRef := c.tutorRef
  displayName := c.name
  profileUrl := c.profileUrl
  evidence := c
  freshness := c.freshness
  capturedAt := save.capturedAt

/-- The candidates of a `PgDemoRepository`. The evidence of a row has its rank. -/
structure PgCandidates where
  table : Table CandidateRow.key := .empty
  ranked : ∀ row ∈ table.rows, row.evidence.rank = row.rank := by simp

namespace PgCandidates

/-- What `ON CONFLICT DO UPDATE` leaves of a row: neither its moment nor its freshness changes. -/
def updated (stored : CandidateRow) (c : TutorCandidate) : CandidateRow :=
  { stored with
    tutorRef := c.tutorRef, displayName := c.name, profileUrl := c.profileUrl, evidence := c }

/-- The row that stands for a candidate when it has been saved. -/
def written (s : PgCandidates) (save : SaveCandidates) (c : TutorCandidate) : CandidateRow :=
  match s.table.find (save.row c).key with
  | none => save.row c
  | some stored => updated stored c

theorem written_key (s : PgCandidates) (save : SaveCandidates) (c : TutorCandidate) :
    (s.written save c).key = (save.row c).key := by
  unfold written
  cases hfind : s.table.find (save.row c).key with
  | none => rfl
  | some stored => exact (Table.find_eq_some_iff.mp hfind).2

theorem written_evidence (s : PgCandidates) (save : SaveCandidates) (c : TutorCandidate) :
    (s.written save c).evidence = c := by
  unfold written
  cases s.table.find (save.row c).key <;> rfl

/-- One candidate is inserted, or put over the one that has its rank in the session. -/
def saveOne (save : SaveCandidates) (s : PgCandidates) (c : TutorCandidate) : PgCandidates where
  table := s.table.put (s.written save c)
  ranked := by
    intro row hrow
    rcases Table.mem_put.mp hrow with rfl | ⟨hrow, _⟩
    · rw [written_evidence]
      exact (congrArg (fun k => k.2.2) (written_key s save c)).symm
    · exact s.ranked row hrow

/-- `save_candidates`: rows that are not saved again stay. -/
def saveCandidates (s : PgCandidates) (save : SaveCandidates) : PgCandidates :=
  save.candidates.foldl (saveOne save) s

/-- The rows of a session. -/
def session (s : PgCandidates) (ref matchSession : String) : List CandidateRow :=
  s.table.rows.filter fun r => r.conversationRef = ref && r.matchSessionId = matchSession

/-- `model_validate(evidence)`: the rank has to be in range, and the rest `intact`. -/
def parse (intact : CandidateRow → Bool) (r : CandidateRow) : Option TutorCandidate :=
  if 1 ≤ r.evidence.rank ∧ r.evidence.rank ≤ MAX_OPTIONS ∧ intact r = true then some r.evidence
  else none

/-- `ORDER BY rank`, without the rows that do not parse. -/
def candidatesOf (intact : CandidateRow → Bool) (s : PgCandidates) (ref matchSession : String) :
    List TutorCandidate :=
  ((s.session ref matchSession).insertionSort fun a b => a.rank ≤ b.rank).filterMap (parse intact)

/-- `ORDER BY captured_at DESC LIMIT 1`: of rows captured at one moment it may be any. -/
def Latest (s : PgCandidates) (ref matchSession : String) : Prop :=
  ∃ row ∈ s.table.rows, row.conversationRef = ref ∧ row.matchSessionId = matchSession ∧
    ∀ other ∈ s.table.rows, other.conversationRef = ref → other.capturedAt ≤ row.capturedAt

/-- What `load_candidates` may answer. -/
inductive Loads (intact : CandidateRow → Bool) (s : PgCandidates) (ref : String) :
    List TutorCandidate → Prop
  | nothing (h : ∀ row ∈ s.table.rows, row.conversationRef ≠ ref) : Loads intact s ref []
  | session {matchSession : String} (h : s.Latest ref matchSession) :
    Loads intact s ref (s.candidatesOf intact ref matchSession)

/-- A session has a row with this rank that can be read. -/
def Offers (intact : CandidateRow → Bool) (s : PgCandidates) (ref matchSession : String)
    (rank : Nat) : Prop :=
  ∃ row ∈ s.table.rows, row.conversationRef = ref ∧ row.matchSessionId = matchSession ∧
    row.rank = rank ∧ intact row = true

/-- Its first candidate is missing, and the two others are there. -/
def Headless (intact : CandidateRow → Bool) (s : PgCandidates) (ref matchSession : String) :
    Prop :=
  ¬ s.Offers intact ref matchSession 1 ∧ s.Offers intact ref matchSession 2 ∧
    s.Offers intact ref matchSession 3

section Loading

variable {intact : CandidateRow → Bool} {s : PgCandidates} {ref matchSession : String}

theorem parse_eq_some_iff {r : CandidateRow} {c : TutorCandidate} :
    parse intact r = some c ↔
      c = r.evidence ∧ 1 ≤ c.rank ∧ c.rank ≤ MAX_OPTIONS ∧ intact r = true := by
  unfold parse
  split
  · rename_i h
    constructor
    · intro heq
      obtain rfl := Option.some.inj heq
      exact ⟨rfl, h⟩
    · rintro ⟨rfl, _⟩
      rfl
  · rename_i h
    constructor
    · intro heq
      cases heq
    · rintro ⟨rfl, hrest⟩
      exact absurd hrest h

theorem mem_session {r : CandidateRow} :
    r ∈ s.session ref matchSession ↔
      r ∈ s.table.rows ∧ r.conversationRef = ref ∧ r.matchSessionId = matchSession := by
  rw [session, List.mem_filter, Bool.and_eq_true, decide_eq_true_eq, decide_eq_true_eq]

/-- No two rows of a session have one rank. -/
theorem session_strict :
    ((s.session ref matchSession).insertionSort fun a b => a.rank ≤ b.rank).Pairwise
      fun a b => a.rank < b.rank := by
  have hperm := List.perm_insertionSort (fun a b : CandidateRow => a.rank ≤ b.rank)
    (s.session ref matchSession)
  have hsorted := List.pairwise_insertionSort (fun a b : CandidateRow => a.rank ≤ b.rank)
    (s.session ref matchSession)
  have hnodup := hperm.nodup_iff.mpr ((List.Nodup.of_map _ s.table.nodup).filter _)
  refine (hsorted.and hnodup).imp_of_mem fun {a b} ha hb h => ?_
  obtain ⟨ha, haref, hasession⟩ := mem_session.mp (hperm.mem_iff.mp ha)
  obtain ⟨hb, hbref, hbsession⟩ := mem_session.mp (hperm.mem_iff.mp hb)
  refine lt_of_le_of_ne h.1 fun heq => h.2 (s.table.eq_of_key ha hb ?_)
  rw [CandidateRow.key, CandidateRow.key, haref, hbref, hasession, hbsession, heq]

/-- **What is loaded** is in the order of the ranks, no two the same, each in range. -/
theorem candidatesOf_strict :
    (s.candidatesOf intact ref matchSession).Pairwise fun a b => a.rank < b.rank := by
  have hperm := List.perm_insertionSort (fun a b : CandidateRow => a.rank ≤ b.rank)
    (s.session ref matchSession)
  refine List.pairwise_filterMap.mpr (session_strict.imp_of_mem fun {a b} ha hb h => ?_)
  intro c hc d hd
  obtain ⟨rfl, _⟩ := parse_eq_some_iff.mp hc
  obtain ⟨rfl, _⟩ := parse_eq_some_iff.mp hd
  rw [s.ranked a (mem_session.mp (hperm.mem_iff.mp ha)).1,
    s.ranked b (mem_session.mp (hperm.mem_iff.mp hb)).1]
  exact h

theorem candidatesOf_range {c : TutorCandidate}
    (hc : c ∈ s.candidatesOf intact ref matchSession) : 1 ≤ c.rank ∧ c.rank ≤ MAX_OPTIONS := by
  obtain ⟨r, _, hparse⟩ := List.mem_filterMap.mp hc
  obtain ⟨_, hone, hmax, _⟩ := parse_eq_some_iff.mp hparse
  exact ⟨hone, hmax⟩

/-- A rank in range is loaded if the session offers it. -/
theorem exists_rank_iff {rank : Nat} (hone : 1 ≤ rank) (hmax : rank ≤ MAX_OPTIONS) :
    (∃ c ∈ s.candidatesOf intact ref matchSession, c.rank = rank) ↔
      s.Offers intact ref matchSession rank := by
  have hperm := List.perm_insertionSort (fun a b : CandidateRow => a.rank ≤ b.rank)
    (s.session ref matchSession)
  constructor
  · rintro ⟨c, hc, rfl⟩
    obtain ⟨r, hr, hparse⟩ := List.mem_filterMap.mp hc
    obtain ⟨rfl, _, _, hintact⟩ := parse_eq_some_iff.mp hparse
    obtain ⟨hr, href, hsession⟩ := mem_session.mp (hperm.mem_iff.mp hr)
    exact ⟨r, hr, href, hsession, (s.ranked r hr).symm, hintact⟩
  · rintro ⟨r, hr, href, hsession, rfl, hintact⟩
    have hrank := s.ranked r hr
    refine ⟨r.evidence, List.mem_filterMap.mpr ⟨r, ?_, ?_⟩, hrank⟩
    · exact hperm.mem_iff.mpr (mem_session.mpr ⟨hr, href, hsession⟩)
    · exact parse_eq_some_iff.mpr ⟨rfl, by omega, by omega, hintact⟩

end Loading

end PgCandidates

/-! ## What is shown -/

/-- The answer behind the button of a candidate. -/
def optionReply (c : TutorCandidate) : String := "tutor:" ++ toString c.rank

/-- The ordinal that stands before the name of a candidate. -/
def optionOrdinal (c : TutorCandidate) : String := toString c.rank

/-! ## What is selected -/

/-- A reply selects the candidate, or none. -/
def Selects (c : TutorCandidate) (s : Selection) : Prop :=
  s.candidate = some c ∨ s.candidate = none

/-- **The option shown is the tutor selected**, by its button whatever the text with it, and by
its ordinal. -/
def ShownIsSelected (t : Tables) (cs : List TutorCandidate) : Prop :=
  ∀ c ∈ cs, (∀ text, Selects c (resolve t text cs (some (optionReply c)))) ∧
    Selects c (resolve t (optionOrdinal c) cs none)

section Selecting

variable {t : Tables} {cs : List TutorCandidate}

/-- A button selects by place. -/
theorem resolve_button (ht : t.Plain) {n : Nat} (hone : 1 ≤ n) (hmax : n ≤ MAX_OPTIONS)
    (hcs : cs ≠ []) (text : String) :
    (resolve t text cs (some ("tutor:" ++ toString n))).candidate = cs[n - 1]? := by
  have hordinal : buttonOrdinal "tutor" (t.lower (Text.strip t ("tutor:" ++ toString n))) =
      some n := by
    have hn : n = 1 ∨ n = 2 ∨ n = 3 := by
      unfold MAX_OPTIONS at hmax
      omega
    have hword : Text.Word ("tutor:" ++ toString n) := by
      rcases hn with rfl | rfl | rfl <;> decide
    rw [ht.strip_word hword, ht.lower _ fun c hc => (hword.2 c hc).1]
    rcases hn with rfl | rfl | rfl <;> decide
  rw [resolve, if_neg hcs, Option.bind_some, hordinal]
  dsimp only
  cases cs[n - 1]? <;> rfl

/-- So does an ordinal: it is no name, and nothing that asks for others. -/
theorem resolve_ordinal (ht : t.Plain) {n : Nat} (hone : 1 ≤ n) (hmax : n ≤ MAX_OPTIONS)
    (hcs : cs ≠ []) : (resolve t (toString n) cs none).candidate = cs[n - 1]? := by
  have hn : n = 1 ∨ n = 2 ∨ n = 3 := by
    unfold MAX_OPTIONS at hmax
    omega
  have hsquash : Text.squash t (toString n) = toString n := by
    rcases hn with rfl | rfl | rfl <;> exact ht.squash_word (by decide) (by decide)
  have hempty : toString n ≠ "" := by rcases hn with rfl | rfl | rfl <;> decide
  have hreject : Text.containsAny (toString n) REJECT_WORDS = false := by
    rcases hn with rfl | rfl | rfl <;> decide
  have hname : matchByName t (toString n) cs = [] := by
    have htokens : nameTokens (toString n) = [] := by rcases hn with rfl | rfl | rfl <;> decide
    refine List.filter_eq_nil_iff.mpr fun c _ => ?_
    rw [htokens]
    simp
  have hplace : matchByOrdinal (toString n) cs = cs[n - 1]?.toList := by
    have htoken : (Text.runs isLatinLowerOrDigit (toString n)).map String.ofList = [toString n] := by
      rcases hn with rfl | rfl | rfl <;> decide
    have hlookup : ORDINALS.lookup (toString n) = some n := by
      rcases hn with rfl | rfl | rfl <;> decide
    rw [matchByOrdinal, htoken, List.foldl_cons, List.foldl_nil, hlookup, Option.bind_some]
    cases cs[n - 1]? <;> rfl
  rw [resolve, if_neg hcs, Option.bind_none]
  dsimp only
  rw [hsquash, if_neg hempty, hreject, hname, hplace]
  cases cs[n - 1]? <;> rfl

/-- **Shown is selected** if the place of a rank holds no candidate of another rank. -/
theorem shownIsSelected_iff (ht : t.Plain)
    (hrange : ∀ c ∈ cs, 1 ≤ c.rank ∧ c.rank ≤ MAX_OPTIONS) :
    ShownIsSelected t cs ↔ ∀ c ∈ cs, ∀ x, cs[c.rank - 1]? = some x → x = c := by
  have hplace : ∀ c, (cs[c.rank - 1]? = some c ∨ cs[c.rank - 1]? = none) ↔
      ∀ x, cs[c.rank - 1]? = some x → x = c := by
    intro c
    cases cs[c.rank - 1]? with
    | none => simp
    | some y => simp [eq_comm]
  refine forall₂_congr fun c hc => ?_
  have hne : cs ≠ [] := List.ne_nil_of_mem hc
  obtain ⟨hone, hmax⟩ := hrange c hc
  unfold Selects optionReply optionOrdinal
  rw [resolve_ordinal ht hone hmax hne, ← hplace]
  constructor
  · exact fun h => h.2
  · refine fun h => ⟨fun text => ?_, h⟩
    rw [resolve_button ht hone hmax hne]
    exact h

/-- The one wrong list: its candidates have the ranks two and three. -/
theorem place_iff (hstrict : cs.Pairwise fun a b => a.rank < b.rank)
    (hrange : ∀ c ∈ cs, 1 ≤ c.rank ∧ c.rank ≤ MAX_OPTIONS) :
    (∀ c ∈ cs, ∀ x, cs[c.rank - 1]? = some x → x = c) ↔
      ¬ ((¬ ∃ c ∈ cs, c.rank = 1) ∧ (∃ c ∈ cs, c.rank = 2) ∧ ∃ c ∈ cs, c.rank = 3) := by
  unfold MAX_OPTIONS at hrange
  rcases cs with _ | ⟨a, _ | ⟨b, _ | ⟨c, _ | ⟨d, rest⟩⟩⟩⟩
  · simp
  · -- a single option is at the first place, and the second and the third are empty
    have ha := hrange a (by simp)
    simp only [List.mem_singleton, forall_eq, exists_eq_left]
    refine iff_of_true (fun x hx => ?_) (by omega)
    obtain hrank | hrank : a.rank - 1 = 0 ∨ a.rank - 1 = a.rank - 2 + 1 := by omega
    · rw [hrank] at hx
      exact (Option.some.inj hx).symm
    · rw [hrank] at hx
      cases hx
  · have ha := hrange a (by simp)
    have hb := hrange b (by simp)
    have hab : a.rank < b.rank := by simpa using hstrict
    obtain ⟨h1, h2⟩ | ⟨h1, h2⟩ | ⟨h1, h2⟩ : a.rank = 1 ∧ b.rank = 2 ∨ a.rank = 1 ∧ b.rank = 3 ∨
      a.rank = 2 ∧ b.rank = 3 := by omega
    · simp [h1, h2]
    · simp [h1, h2]
    · have hne : b ≠ a := fun h => by rw [h] at hab; omega
      simp [h1, h2, hne]
  · have ha := hrange a (by simp)
    have hb := hrange b (by simp)
    have hc := hrange c (by simp)
    simp only [List.pairwise_cons, List.mem_cons, List.not_mem_nil, or_false] at hstrict
    have hab := hstrict.1 b (.inl rfl)
    have hbc := hstrict.2.1 c rfl
    obtain ⟨h1, h2, h3⟩ : a.rank = 1 ∧ b.rank = 2 ∧ c.rank = 3 := by omega
    simp [h1, h2, h3]
  · exfalso
    have ha := hrange a (by simp)
    have hd := hrange d (by simp)
    simp only [List.pairwise_cons, List.mem_cons] at hstrict
    have hab := hstrict.1 b (.inl rfl)
    have hbc := hstrict.2.1 c (.inl rfl)
    have hcd := hstrict.2.2.1 d (.inl rfl)
    omega

end Selecting

/-- **What a match result presents** is selected as it is shown. -/
theorem shownIsSelected_presentable {t : Tables} (ht : t.Plain) (result : TutorMatchResult) :
    ShownIsSelected t result.presentable := by
  have hplace {i : Nat} {c : TutorCandidate} (h : result.presentable[i]? = some c) :
      c.rank = i + 1 ∧ i < MAX_OPTIONS := by
    obtain ⟨hi, rfl⟩ := List.getElem?_eq_some_iff.mp h
    refine ⟨by simp [TutorMatchResult.presentable], hi.trans_le ?_⟩
    simp [TutorMatchResult.presentable]
  refine (shownIsSelected_iff ht fun c hc => ?_).mpr fun c hc x hx => ?_
  · obtain ⟨i, hi⟩ := List.getElem?_of_mem hc
    obtain ⟨hrank, hlt⟩ := hplace hi
    omega
  · obtain ⟨i, hi⟩ := List.getElem?_of_mem hc
    rw [(hplace hi).1, Nat.add_sub_cancel, hi] at hx
    exact (Option.some.inj hx).symm

theorem third_presentable : ShownIsSelected Text.ascii (TutorMatchResult.presentable
    { matchSessionId := "m", generatedAt := 0
      candidates := [{ rank := 3, tutorRef := "tut_priya", name := "Priya Nair" }] }) :=
  shownIsSelected_presentable Text.plain_ascii _

/-- **The option shown is the tutor selected**, after any saves and whatever rows are skipped,
exactly if no session that may be loaded is without its first candidate and has both others. -/
theorem shown_is_selected_iff {t : Tables} (ht : t.Plain) (saves : List SaveCandidates)
    (intact : CandidateRow → Bool) (ref : String) :
    (∀ cs, PgCandidates.Loads intact (saves.foldl PgCandidates.saveCandidates {}) ref cs →
      ShownIsSelected t cs) ↔
    ∀ matchSession,
      (saves.foldl PgCandidates.saveCandidates {}).Latest ref matchSession →
      ¬ (saves.foldl PgCandidates.saveCandidates {}).Headless intact ref matchSession := by
  generalize saves.foldl PgCandidates.saveCandidates {} = s
  have hsession : ∀ matchSession, ShownIsSelected t (s.candidatesOf intact ref matchSession) ↔
      ¬ s.Headless intact ref matchSession := by
    intro matchSession
    rw [shownIsSelected_iff ht fun c hc => PgCandidates.candidatesOf_range hc,
      place_iff PgCandidates.candidatesOf_strict fun c hc => PgCandidates.candidatesOf_range hc,
      PgCandidates.exists_rank_iff (by decide) (by decide),
      PgCandidates.exists_rank_iff (by decide) (by decide),
      PgCandidates.exists_rank_iff (by decide) (by decide)]
    rfl
  constructor
  · intro h matchSession hlatest
    exact (hsession matchSession).mp (h _ (.session hlatest))
  · intro h cs hloads
    cases hloads with
    | nothing _ => exact fun c hc => absurd hc List.not_mem_nil
    | session hlatest => exact (hsession _).mpr (h _ hlatest)

/-! ## Three tutors -/

def priya : TutorCandidate := { rank := 1, tutorRef := "tut_priya", name := "Priya Nair" }

def meera : TutorCandidate := { rank := 2, tutorRef := "tut_meera", name := "Meera Rao" }

def arjun : TutorCandidate := { rank := 3, tutorRef := "tut_arjun", name := "Arjun Sen" }

/-- One session, in which they were presented. -/
def threeTutors : SaveCandidates := ⟨"cv_c", "match_1", [priya, meera, arjun], 0⟩

theorem latest_threeTutors (matchSession : String) :
    ([threeTutors].foldl PgCandidates.saveCandidates {}).Latest "cv_c" matchSession ↔
      matchSession = "match_1" := by
  constructor
  · rintro ⟨row, hrow, _, rfl, _⟩
    revert row
    decide
  · rintro rfl
    exact ⟨threeTutors.row priya, by decide, rfl, rfl, by decide⟩

/-- If all their rows can be read, each is selected as shown. -/
theorem three_tutors_selected :
    ShownIsSelected Text.ascii
      (([threeTutors].foldl PgCandidates.saveCandidates {}).candidatesOf (fun _ => true) "cv_c"
        "match_1") := by
  refine (shown_is_selected_iff Text.plain_ascii [threeTutors] (fun _ => true) "cv_c").mpr ?_ _
    (.session ((latest_threeTutors "match_1").mpr rfl))
  intro matchSession hlatest hheadless
  obtain rfl := (latest_threeTutors matchSession).mp hlatest
  exact hheadless.1 ⟨threeTutors.row priya, by decide, rfl, rfl, rfl, rfl⟩

/-- **Who taps the second gets the third**, if the row of the first can no longer be read. -/
theorem third_selected_for_second :
    ¬ ∀ cs, PgCandidates.Loads (fun row => row.tutorRef ≠ "tut_priya")
        ([threeTutors].foldl PgCandidates.saveCandidates {}) "cv_c" cs →
      ShownIsSelected Text.ascii cs := by
  intro h
  have hcs := h _ (.session ((latest_threeTutors "match_1").mpr rfl))
  have hmeera := (hcs meera (by decide)).1 ""
  revert hmeera
  unfold Selects
  decide

end NxTutors.DemoAgent
