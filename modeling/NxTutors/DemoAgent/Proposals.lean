import NxTutors.DemoAgent.Scheduling
import NxTutors.DemoAgent.World
import NxTutors.Effect.Answering
import NxTutors.Store.Ranking

/-!
# Availability that is proposed

What is proposed is meant to be time that the tutor has. A slot that the gateway answers is ranked
as one of the length that was asked for, so what is proposed begins where an available slot begins,
and may last longer than it does. What is booked is checked once more before the event is created,
by whether it overlaps an available slot, so it may lie outside of all of them.

`proposals_available_iff` says when this happens, and that nothing else is wrong with what is
proposed or booked.
-/

namespace NxTutors.DemoAgent

open Effect
open Store

/-! ## Slots of another length -/

namespace TimeSlot

/-- The slot lies in the other one. -/
def within (s t : TimeSlot) : Prop := t.startsAt ≤ s.startsAt ∧ s.endsAt ≤ t.endsAt

instance (s t : TimeSlot) : Decidable (s.within t) :=
  inferInstanceAs (Decidable (t.startsAt ≤ s.startsAt ∧ s.endsAt ≤ t.endsAt))

/-- A slot of this length, from where the slot begins. -/
def lasting (durationMinutes : Int) (timezone : String)
    (bounded : 15 ≤ durationMinutes ∧ durationMinutes ≤ 180) (slot : TimeSlot) : TimeSlot :=
  { startsAt := slot.startsAt, durationMinutes, timezone, bounded }

variable {durationMinutes : Int} {timezone : String}
  {bounded : 15 ≤ durationMinutes ∧ durationMinutes ≤ 180} {s t : TimeSlot}

@[simp] theorem lasting_startsAt :
    (s.lasting durationMinutes timezone bounded).startsAt = s.startsAt := rfl

/-- Whether a slot can be booked depends on where it begins. -/
@[simp] theorem lasting_bookableFrom (now : Time) :
    (s.lasting durationMinutes timezone bounded).bookableFrom now = s.bookableFrom now := rfl

/-- Slots of one length that begin together are the same. -/
theorem lasting_congr (h : s.startsAt = t.startsAt) : s.lasting durationMinutes timezone bounded =
    t.lasting durationMinutes timezone bounded := by
  rw [lasting, lasting]
  congr 1

end TimeSlot

/-! ## The order of proposals -/

section Order

variable {cfg : Config} {preferred : Option TimeSlot} {now : Time}

instance : Std.Total (ranksBefore cfg preferred now) where
  total s t := by
    dsimp only [ranksBefore, Time]
    omega

instance : IsTrans TimeSlot (ranksBefore cfg preferred now) where
  trans s t u hst htu := by
    dsimp only [ranksBefore, Time] at hst htu ⊢
    omega

/-- What ranks the same begins together. -/
theorem startsAt_eq_of_ranksBefore {s t : TimeSlot} (hst : ranksBefore cfg preferred now s t)
    (hts : ranksBefore cfg preferred now t s) : s.startsAt = t.startsAt := by
  dsimp only [ranksBefore, Time] at hst hts ⊢
  omega

end Order

/-! ## Proposing slots of any length -/

/-- How many elements of a list of `n` are in `xs[:limit]`. A negative limit leaves out the last. -/
def sliceLength (limit : Int) (n : Nat) : Nat :=
  if 0 ≤ limit then limit.toNat else n - (-limit).toNat

/-- Score, sort, and take the first `limit`, of slots that last `durationMinutes`. A slot is neither
too short nor too long, and a proposal has a rank from one to five. -/
def rankSlotsLasting (cfg : Config) (available : List TimeSlot) (preferred : Option TimeSlot)
    (timezone : String) (durationMinutes : Int) (now : Time) (limit : Int) :
    Except Exn (List SlotProposal) :=
  if bounded : 15 ≤ durationMinutes ∧ durationMinutes ≤ 180 then
    let normalised := available.map (TimeSlot.lasting durationMinutes timezone bounded)
    let ranked := normalised.insertionSort (ranksBefore cfg preferred now)
    let first := ranked.take (sliceLength limit ranked.length)
    if 5 < first.length then .error (.other "ValidationError")
    else .ok (first.mapIdx fun i slot => { slot, rank := i + 1 })
  else if available = [] then .ok []
  else .error (.other "ValidationError")

/-- The slots that are ranked. -/
def bookableSlots (now : Time) (available : List TimeSlot) : List TimeSlot :=
  available.filter fun slot => (slot.bookableFrom now).isNone

/-- What comes of what the gateway answers. -/
def proposed (cfg : Config) (preferred : Option TimeSlot) (timezone : String)
    (durationMinutes limit : Int) (now : Time) (available : List TimeSlot) :
    Except Exn ProposalResult :=
  let bookable := bookableSlots now available
  if bookable = [] then .ok { reason := "no_available_slots" }
  else
    (rankSlotsLasting cfg bookable preferred timezone durationMinutes now limit).map
      fun proposals => { proposals }

/-- Rank slots at which the tutor is available, for a demo of any length. -/
def proposeLasting (cfg : Config) (tutorRef : String) (preferred : Option TimeSlot)
    (timezone : String) (durationMinutes limit : Int) : Act ProposalResult := do
  let now : Time ← ask .now
  match ← ask (.tutorAvailability tutorRef now (now + SEARCH_HORIZON)) with
  | .error _ =>
    pure { degraded := ["tutor_availability"], reason := "availability_unknown" }
  | .ok (available : List TimeSlot) =>
    match proposed cfg preferred timezone durationMinutes limit now available with
    | .error exn => throw exn
    | .ok result => pure result

/-- A demo lasts 45 minutes, and three slots are proposed, unless anything else is said. -/
theorem propose_eq (cfg : Config) (tutorRef : String) (preferred : Option TimeSlot)
    (timezone : String) :
    propose cfg tutorRef preferred timezone =
      proposeLasting cfg tutorRef preferred timezone 45 3 := by
  have hproposed (now : Time) (available : List TimeSlot) :
      proposed cfg preferred timezone 45 3 now available =
        .ok (if bookableSlots now available = [] then { reason := "no_available_slots" }
          else { proposals :=
            rankSlots cfg (bookableSlots now available) preferred timezone now }) := by
    have hfew (l : List TimeSlot) : ¬ 5 < (l.take (sliceLength 3 l.length)).length := by
      have hthree : sliceLength 3 l.length = 3 := rfl
      rw [hthree, List.length_take]
      omega
    simp only [proposed, rankSlotsLasting]
    split
    · rfl
    · rw [dif_pos (by decide), if_neg (hfew _)]
      rfl
  rw [propose, proposeLasting]
  congr 1
  funext now
  congr 1
  funext answer
  cases answer with
  | error => rfl
  | ok available =>
    dsimp only
    rw [hproposed]
    change (if bookableSlots now available = [] then _ else _) = _
    split <;> rfl

section Ranked

variable {cfg : Config} {preferred : Option TimeSlot} {timezone : String}
  {durationMinutes limit : Int} {now : Time} {available : List TimeSlot}

/-- How many slots are strictly better than this one, or as good and earlier. -/
def rankedBefore (cfg : Config) (preferred : Option TimeSlot) (timezone : String) (now : Time)
    {durationMinutes : Int} (bounded : 15 ≤ durationMinutes ∧ durationMinutes ≤ 180)
    (available : List TimeSlot) (slot : TimeSlot) : Nat :=
  available.countP fun other => ¬ ranksBefore cfg preferred now
    (slot.lasting durationMinutes timezone bounded) (other.lasting durationMinutes timezone bounded)

/-- **What a ranking that succeeds proposes**, with the slots that are ranked before few others. -/
theorem rankSlotsLasting_spec {proposals : List SlotProposal} (hsome : available ≠ [])
    (h : rankSlotsLasting cfg available preferred timezone durationMinutes now limit =
      .ok proposals) :
    ∃ bounded : 15 ≤ durationMinutes ∧ durationMinutes ≤ 180,
      min (sliceLength limit available.length) available.length ≤ 5 ∧
      (proposals.map SlotProposal.slot).Sublist ((available.map
        (TimeSlot.lasting durationMinutes timezone bounded)).insertionSort
          (ranksBefore cfg preferred now)) ∧
      ∀ slot, slot ∈ proposals.map SlotProposal.slot ↔
        ∃ x ∈ available, slot = x.lasting durationMinutes timezone bounded ∧
          rankedBefore cfg preferred timezone now bounded available x <
            sliceLength limit available.length := by
  rw [rankSlotsLasting] at h
  split at h
  · rename_i bounded
    dsimp only at h
    split at h
    · cases h
    rename_i hfew
    refine ⟨bounded, ?_, ?_⟩
    · rw [List.length_take, List.length_insertionSort, List.length_map] at hfew
      omega
    have hslots : proposals.map SlotProposal.slot =
        ((available.map (TimeSlot.lasting durationMinutes timezone bounded)).insertionSort
          (ranksBefore cfg preferred now)).take (sliceLength limit available.length) := by
      rw [← Except.ok.inj h, List.length_insertionSort, List.length_map]
      exact List.ext_getElem (by simp) fun i _ _ => by simp
    rw [hslots]
    refine ⟨List.take_sublist _ _, fun slot => ?_⟩
    rw [mem_take_ranked_iff]
    · constructor
      · rintro ⟨hslot, hlt⟩
        obtain ⟨x, hx, rfl⟩ := List.mem_map.mp hslot
        rw [List.countP_map] at hlt
        exact ⟨x, hx, rfl, hlt⟩
      · rintro ⟨x, hx, rfl, hlt⟩
        refine ⟨List.mem_map_of_mem hx, ?_⟩
        rw [List.countP_map]
        exact hlt
    · intro s hs t ht hst hts
      obtain ⟨x, -, rfl⟩ := List.mem_map.mp hs
      obtain ⟨y, -, rfl⟩ := List.mem_map.mp ht
      have hstart := startsAt_eq_of_ranksBefore hst hts
      exact TimeSlot.lasting_congr hstart
  · cases h

/-- A ranking succeeds if the slots are neither too short nor too long, and at most five are
taken. -/
theorem rankSlotsLasting_of_few (bounded : 15 ≤ durationMinutes ∧ durationMinutes ≤ 180)
    (hfew : min (sliceLength limit available.length) available.length ≤ 5) :
    ∃ proposals, rankSlotsLasting cfg available preferred timezone durationMinutes now limit =
      .ok proposals := by
  rw [rankSlotsLasting, dif_pos bounded]
  dsimp only
  rw [if_neg]
  · exact ⟨_, rfl⟩
  · rw [List.length_take, List.length_insertionSort, List.length_map]
    omega

/-- What is proposed of the slots that are available. -/
structure SoundOffer (now : Time) (available : List TimeSlot) (proposals : List SlotProposal) :
    Prop where
  within : ∀ p ∈ proposals, ∃ slot ∈ available, p.slot.within slot
  bookable : ∀ p ∈ proposals, p.slot.bookableFrom now = none
  distinct : (available.map TimeSlot.startsAt).Nodup →
    (proposals.map fun p => (p.slot.startsAt, p.slot.endsAt)).Nodup

/-- **Whatever is taken fits**: if the ranking succeeds, every slot that is ranked before few others
has an available slot around it when it lasts as long as was asked for. -/
def Fits (cfg : Config) (preferred : Option TimeSlot) (timezone : String)
    (durationMinutes limit : Int) (now : Time) (available : List TimeSlot) : Prop :=
  let bookable := bookableSlots now available
  ∀ bounded : 15 ≤ durationMinutes ∧ durationMinutes ≤ 180,
    min (sliceLength limit bookable.length) bookable.length ≤ 5 →
    ∀ x ∈ bookable, rankedBefore cfg preferred timezone now bounded bookable x <
        sliceLength limit bookable.length →
      ∃ slot ∈ available, (x.lasting durationMinutes timezone bounded).within slot

theorem mem_bookableSlots {slot : TimeSlot} :
    slot ∈ bookableSlots now available ↔ slot ∈ available ∧ slot.bookableFrom now = none := by
  rw [bookableSlots, List.mem_filter, Option.isNone_iff_eq_none]

/-- **What is proposed is available exactly if whatever is taken fits.** It is bookable, and
different, in any case. -/
theorem proposed_offered_iff :
    (∀ result, proposed cfg preferred timezone durationMinutes limit now available = .ok result →
        SoundOffer now available result.proposals) ↔
      Fits cfg preferred timezone durationMinutes limit now available := by
  by_cases hnone : bookableSlots now available = []
  · have hfits : Fits cfg preferred timezone durationMinutes limit now available := by
      intro _ _ x hx
      rw [hnone] at hx
      cases hx
    refine ⟨fun _ => hfits, fun _ result hresult => ?_⟩
    rw [proposed, if_pos hnone] at hresult
    obtain rfl := Except.ok.inj hresult
    exact ⟨fun _ hp => absurd hp List.not_mem_nil, fun _ hp => absurd hp List.not_mem_nil,
      fun _ => List.nodup_nil⟩
  constructor
  · intro h bounded hfew x hx hlt
    obtain ⟨proposals, hranked⟩ : ∃ proposals, rankSlotsLasting cfg (bookableSlots now available)
        preferred timezone durationMinutes now limit = .ok proposals :=
      rankSlotsLasting_of_few bounded hfew
    have hresult : proposed cfg preferred timezone durationMinutes limit now available =
        .ok { proposals } := by
      rw [proposed, if_neg hnone, hranked]
      rfl
    obtain ⟨_, -, -, hmem⟩ := rankSlotsLasting_spec hnone hranked
    obtain ⟨p, hp, hslot⟩ := List.mem_map.mp ((hmem _).mpr ⟨x, hx, rfl, hlt⟩)
    rw [← hslot]
    exact (h _ hresult).within p hp
  · intro h result hresult
    rw [proposed, if_neg hnone] at hresult
    cases hranked : rankSlotsLasting cfg (bookableSlots now available) preferred timezone
        durationMinutes now limit with
    | error exn =>
      rw [hranked] at hresult
      cases hresult
    | ok proposals =>
      rw [hranked] at hresult
      obtain rfl := Except.ok.inj hresult
      obtain ⟨bounded, hfew, hsub, hmem⟩ := rankSlotsLasting_spec hnone hranked
      refine ⟨fun p hp => ?_, fun p hp => ?_, fun hdistinct => ?_⟩
      · obtain ⟨x, hx, hslot, hlt⟩ := (hmem _).mp (List.mem_map_of_mem hp)
        rw [hslot]
        exact h bounded hfew x hx hlt
      · obtain ⟨x, hx, hslot, -⟩ := (hmem _).mp (List.mem_map_of_mem hp)
        rw [hslot, TimeSlot.lasting_bookableFrom]
        exact (mem_bookableSlots.mp hx).2
      · refine List.Nodup.of_map Prod.fst ?_
        have hbookable : ((bookableSlots now available).map TimeSlot.startsAt).Nodup :=
          hdistinct.sublist (List.filter_sublist.map _)
        have hperm := List.perm_insertionSort (ranksBefore cfg preferred now)
          ((bookableSlots now available).map (TimeSlot.lasting durationMinutes timezone bounded))
        have hsorted := (hperm.map TimeSlot.startsAt).nodup_iff.mpr (by rwa [List.map_map])
        rw [List.map_map]
        have hstarts := hsorted.sublist (hsub.map TimeSlot.startsAt)
        rwa [List.map_map] at hstarts

end Ranked

/-! ## Runs -/

/-- The clock and the generator of identifiers answer. What else is called may raise. -/
def Told : (o : Op) → Except Exn o.Res → Prop
  | .now, r => ∃ moment, r = .ok moment
  | .newId _, r => ∃ id, r = .ok id
  | _, _ => True

/-- The setting in which a gateway answers what it likes. -/
def told : Setting ports Exn Unit := answering (S := ports) Told

section Runs

variable {cfg : Config} {preferred : Option TimeSlot} {tutorRef timezone : String}
  {durationMinutes limit : Int} {now : Time} {available : List TimeSlot}

/-- Proposing asks what is available from now on, and proposes what comes of the answer. -/
theorem proposeLasting_meets : Meets told.logged (fun _ _ => True)
    (fun out b => ∃ (now : Time) (answer : _),
      b.2 = [⟨.now, .ok now⟩, ⟨.tutorAvailability tutorRef now (now + SEARCH_HORIZON), answer⟩] ∧
      ∀ available, answer = .ok (.ok available) →
        out = proposed cfg preferred timezone durationMinutes limit now available)
    (proposeLasting cfg tutorRef preferred timezone durationMinutes limit) ((), []) := by
  refine meets_answering_bind (S := ports) (o := Op.now) (fun (now : Time) _ => ?_)
    fun exn ⟨_, heq⟩ => by cases heq
  refine meets_answering_bind (S := ports)
    (o := Op.tutorAvailability tutorRef now (now + SEARCH_HORIZON)) (fun answer _ => ?_)
    fun exn _ => ⟨now, _, rfl, fun _ heq => by cases heq⟩
  rcases answer with error | (available : List TimeSlot)
  · exact ⟨now, _, rfl, fun _ heq => by cases heq⟩
  · dsimp only
    cases hproposed : proposed cfg preferred timezone durationMinutes limit now available with
    | error exn =>
      refine ⟨now, _, rfl, fun available' heq => ?_⟩
      obtain rfl : available = available' := by cases heq; rfl
      exact hproposed.symm
    | ok result =>
      refine ⟨now, _, rfl, fun available' heq => ?_⟩
      obtain rfl : available = available' := by cases heq; rfl
      exact hproposed.symm

/-- The query of a booking. -/
def SlotHold.query (hold : SlotHold) : Op :=
  .tutorAvailability hold.tutorRef (hold.slot.startsAt - minute) (hold.slot.endsAt + minute)

/-- The creation of an event. -/
def Op.creates : Op → Bool
  | .createEvent .. => true
  | _ => false

/-- The question when a tutor is available. -/
def Op.queries : Op → Bool
  | .tutorAvailability .. => true
  | _ => false

/-- An event was asked for. -/
def Created (calls : History ports Exn) : Prop := ∃ c ∈ calls, c.1.creates = true

/-- The gateway answered the query of the booking with these slots. -/
def QueryAnswered (hold : SlotHold) (calls : History ports Exn) (available : List TimeSlot) : Prop :=
  ⟨hold.query, .ok (.ok available)⟩ ∈ calls

variable {demo : Demo} {hold : SlotHold} {tutorEmail studentEmail : Option String}
  {summary description : String}

theorem nothing_queries : ∀ c ∈ ([] : History ports Exn), c.1.queries = false :=
  fun _ hc => absurd hc List.not_mem_nil

/-- What a booking has asked once, it does not ask again. -/
theorem answered_iff {r : Except Exn Time}
    {answer : Except Exn (Except ProviderError (List TimeSlot))} {rest : History ports Exn}
    (hrest : ∀ c ∈ rest, c.1.queries = false) :
    QueryAnswered hold (⟨.now, r⟩ :: ⟨hold.query, answer⟩ :: rest) available ↔
      answer = .ok (.ok available) := by
  refine ⟨fun h => ?_, fun h => ?_⟩
  · rcases List.mem_cons.mp h with heq | h
    · cases heq
    · rcases List.mem_cons.mp h with heq | h
      · exact (eq_of_heq (Sigma.mk.inj heq).2).symm
      · cases hrest _ h
  · rw [h]
    exact List.mem_cons_of_mem _ List.mem_cons_self

/-- A booking that has asked for an event has been answered that the slot is free. -/
theorem created_iff {r : Except Exn Time}
    {answer : Except Exn (Except ProviderError (List TimeSlot))} {id : Except Exn String} {o : Op}
    {created : Except Exn o.Res} {rest : History ports Exn}
    (ho : o.creates = true) (hrest : ∀ c ∈ rest, c.1.queries = false)
    (hfree : ∀ available, answer = .ok (.ok available) →
      .ok true = (.ok (available.any fun slot => slot.overlaps hold.slot) : Except Exn Bool))
    {available : List TimeSlot} (h : QueryAnswered hold (⟨.now, r⟩ :: ⟨hold.query, answer⟩ ::
      ⟨.newId "nxt", id⟩ :: ⟨o, created⟩ :: rest) available) :
    Created (⟨.now, r⟩ :: ⟨hold.query, answer⟩ :: ⟨.newId "nxt", id⟩ :: ⟨o, created⟩ :: rest) ↔
      (available.any fun slot => slot.overlaps hold.slot) = true := by
  have hquiet : ∀ c ∈ (⟨.newId "nxt", id⟩ :: ⟨o, created⟩ :: rest : History ports Exn),
      c.1.queries = false := by
    intro c hc
    rcases List.mem_cons.mp hc with rfl | hc
    · rfl
    · rcases List.mem_cons.mp hc with rfl | hc
      · cases o with
        | createEvent => rfl
        | _ => cases ho
      · exact hrest c hc
  rw [← Except.ok.inj (hfree available ((answered_iff hquiet).mp h))]
  exact ⟨fun _ => rfl, fun _ => ⟨⟨o, created⟩, by simp, ho⟩⟩

/-- A program that does not ask again when a tutor is available. -/
def Unasking {α : Type} (p : Act α) : Prop :=
  p.Within (fun o : Op => o.queries = false) (fun _ => True) fun _ => True

theorem unasking_ite {α : Type} {c : Prop} [Decidable c] {p q : Act α} (hp : Unasking p)
    (hq : Unasking q) : Unasking (if c then p else q) := by
  split
  · exact hp
  · exact hq

/-- **A booking asks for an event if the slot overlaps one that is available.** -/
theorem book_meets : Meets told.logged (fun _ _ => True)
    (fun _ b => ∀ available, QueryAnswered hold b.2 available →
      (Created b.2 ↔ (available.any fun slot => slot.overlaps hold.slot) = true))
    (book cfg demo hold tutorEmail studentEmail summary description) ((), []) := by
  refine meets_answering_bind (S := ports) (o := Op.now) (fun (now : Time) _ => ?_)
    fun exn ⟨_, heq⟩ => by cases heq
  by_cases hlive : hold.live now = true
  · rw [hlive]
    change Meets told.logged _ _ (revalidate hold >>= _) _
    have hcheck : Meets told.logged (fun _ _ => True) (fun out b => ∃ answer,
        b.2 = [⟨.now, .ok now⟩, ⟨hold.query, answer⟩] ∧
        ∀ available, answer = .ok (.ok available) →
          out = .ok (available.any fun slot => slot.overlaps hold.slot)) (revalidate hold)
        ((), [⟨.now, .ok now⟩]) := by
      refine meets_answering_bind (S := ports) (o := hold.query) (fun answer _ => ?_)
        fun exn _ => ⟨_, rfl, fun _ heq => by cases heq⟩
      rcases answer with error | (available : List TimeSlot)
      · exact ⟨_, rfl, fun _ heq => by cases heq⟩
      · refine ⟨_, rfl, fun available' heq => ?_⟩
        obtain rfl : available = available' := by cases heq; rfl
        rfl
    refine hcheck.bind (fun free b ⟨answer, hlog, hfree⟩ => ?_)
      fun exn b ⟨answer, hlog, hfree⟩ => ?_
    · obtain ⟨⟨⟩, log⟩ := b
      obtain rfl : log = _ := hlog
      cases free with
      | false =>
        intro available h
        have hanswer := (answered_iff nothing_queries).mp h
        rw [← Except.ok.inj (hfree available hanswer)]
        refine ⟨fun ⟨c, hc, hcreates⟩ => ?_, fun heq => by cases heq⟩
        rcases List.mem_cons.mp hc with rfl | hc
        · cases hcreates
        · obtain rfl := List.mem_singleton.mp hc
          cases hcreates
      | true =>
        refine meets_answering_bind (S := ports) (o := Op.newId "nxt")
          (fun (requestId : String) _ => ?_) fun exn ⟨_, heq⟩ => by cases heq
        refine meets_answering_bind (S := ports) (o := Op.createEvent ..) (fun created _ => ?_)
          fun exn _ available h =>
            created_iff rfl nothing_queries hfree h
        refine Meets.post (Prog.Within.meets_answering (C := fun o : Op => o.queries = false)
          (X := fun _ => True) (R := fun _ => True) ?_ fun _ _ _ _ => trivial) ?_
        · rcases created with error | (created : CreatedEvent)
          · trivial
          · refine unasking_ite trivial (unasking_ite ?_ ?_)
            · refine Prog.within_perform_bind (S := ports) rfl
                fun (answer : Except ProviderError Unit) => ?_
              cases answer <;> trivial
            · refine Prog.within_perform_bind (S := ports) rfl fun _ => ?_
              exact Prog.within_perform_bind (S := ports) rfl fun _ => trivial
        · rintro out b ⟨-, rest, rfl, hrest⟩ available h
          exact created_iff rfl hrest hfree h
    · obtain ⟨⟨⟩, log⟩ := b
      obtain rfl : log = _ := hlog
      intro available h
      have hanswer := (answered_iff nothing_queries).mp h
      cases hfree available hanswer
  · rw [Bool.not_eq_true] at hlive
    rw [hlive]
    intro available h
    cases List.mem_singleton.mp h

end Runs

/-- **Availability is not invented exactly if whatever is taken fits, and whatever is booked and
overlaps an available slot lies in one.** -/
theorem proposals_available_iff (cfg : Config) (preferred : Option TimeSlot)
    (tutorRef timezone : String) (durationMinutes limit : Int) :
    (∀ (now : Time) (available : List TimeSlot) (out : Except Exn ProposalResult)
      (log : History ports Exn),
      Run told.logged (proposeLasting cfg tutorRef preferred timezone durationMinutes limit)
        ((), []) out ((), log) →
      ⟨.tutorAvailability tutorRef now (now + SEARCH_HORIZON), .ok (.ok available)⟩ ∈ log →
      ((∀ result, out = .ok result → SoundOffer now available result.proposals) ↔
        Fits cfg preferred timezone durationMinutes limit now available)) ∧
    ∀ (demo : Demo) (hold : SlotHold) (tutorEmail studentEmail : Option String)
      (summary description : String) (available : List TimeSlot) (out : Except Exn BookingResult)
      (log : History ports Exn),
      Run told.logged (book cfg demo hold tutorEmail studentEmail summary description)
        ((), []) out ((), log) →
      QueryAnswered hold log available →
      ((Created log → ∃ slot ∈ available, hold.slot.within slot) ↔
        ((available.any fun slot => slot.overlaps hold.slot) = true →
          ∃ slot ∈ available, hold.slot.within slot)) := by
  refine ⟨fun now available out log hrun hanswer => ?_,
    fun demo hold tutorEmail studentEmail summary description available out log hrun hanswer => ?_⟩
  · obtain ⟨now', answer, rfl, hout⟩ := proposeLasting_meets.run hrun
    rcases List.mem_cons.mp hanswer with heq | hanswer
    · cases heq
    · obtain ⟨hcall, hr⟩ := Sigma.mk.inj (List.mem_singleton.mp hanswer)
      injection hcall with _ hnow
      subst hnow
      rw [hout _ (eq_of_heq hr).symm]
      exact proposed_offered_iff
  · rw [book_meets.run hrun _ hanswer]

/-- A slot an hour from now that is as long as a demo. -/
def wholeSlot : TimeSlot := { startsAt := hour }

/-- One that is shorter. -/
def halfHour : TimeSlot := { startsAt := hour, durationMinutes := 30 }

/-- The calls of proposing when one slot is available. -/
def proposalCalls (slot : TimeSlot) : History ports Exn :=
  [⟨.now, .ok (0 : Time)⟩, ⟨.tutorAvailability "tut_1" 0 (0 + SEARCH_HORIZON), .ok (.ok [slot])⟩]

/-- One slot that is available is proposed, as a slot of 45 minutes. -/
theorem proposed_singleton {slot : TimeSlot} (hslot : slot.bookableFrom 0 = none) :
    proposed plainConfig none "Asia/Kolkata" 45 3 0 [slot] =
      .ok { proposals := [⟨slot.lasting 45 "Asia/Kolkata" (by decide), 1⟩] } := by
  have hbookable : bookableSlots 0 [slot] = [slot] := by simp [bookableSlots, hslot]
  rw [proposed, hbookable]
  rfl

/-- With one slot available, it is proposed. -/
theorem run_propose {slot : TimeSlot} (hslot : slot.bookableFrom 0 = none) :
    Run told.logged (proposeLasting plainConfig "tut_1" none "Asia/Kolkata" 45 3) ((), [])
      (.ok { proposals := [⟨slot.lasting 45 "Asia/Kolkata" (by decide), 1⟩] })
      ((), proposalCalls slot) := by
  refine run_answering (S := ports) (o := Op.now) (r := .ok (0 : Time)) ⟨_, rfl⟩ ?_
  refine run_answering (S := ports) (o := Op.tutorAvailability "tut_1" 0 (0 + SEARCH_HORIZON))
    (r := .ok (.ok [slot])) trivial ?_
  change Run told.logged (match proposed plainConfig none "Asia/Kolkata" 45 3 0 [slot] with
    | .error exn => throw exn
    | .ok result => pure result) _ _ _
  rw [proposed_singleton hslot]
  exact .ret

/-- A slot that is long enough is proposed as it is. -/
theorem wholeSlot_offered : SoundOffer 0 [wholeSlot]
    [⟨wholeSlot.lasting 45 "Asia/Kolkata" (by decide), 1⟩] := by
  have hslot : wholeSlot.bookableFrom 0 = none := by decide
  have hiff := (proposals_available_iff plainConfig none "tut_1" "Asia/Kolkata" 45 3).1 0
    [wholeSlot] _ _ (run_propose hslot) (List.mem_cons_of_mem _ List.mem_cons_self)
  refine hiff.mpr ?_ _ rfl
  intro bounded _ x hx _
  obtain ⟨hx, -⟩ := mem_bookableSlots.mp hx
  obtain rfl := List.mem_singleton.mp hx
  exact ⟨wholeSlot, List.mem_cons_self, le_rfl, le_rfl⟩

/-- **A slot of half an hour is proposed for a demo of three quarters.** -/
theorem halfHour_proposed : ∃ (result : ProposalResult) (log : History ports Exn),
    Run told.logged (propose plainConfig "tut_1" none "Asia/Kolkata") ((), []) (.ok result)
      ((), log) ∧
    ⟨.tutorAvailability "tut_1" 0 (0 + SEARCH_HORIZON), .ok (.ok [halfHour])⟩ ∈ log ∧
    ¬ SoundOffer 0 [halfHour] result.proposals := by
  rw [propose_eq]
  have hslot : halfHour.bookableFrom 0 = none := by decide
  refine ⟨_, _, run_propose hslot, List.mem_cons_of_mem _ List.mem_cons_self, fun h => ?_⟩
  have hwithin := h.within _ List.mem_cons_self
  revert hwithin
  decide

end NxTutors.DemoAgent
