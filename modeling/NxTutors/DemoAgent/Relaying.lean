import NxTutors.DemoAgent.Workers
import NxTutors.Effect.Guarded

/-!
# The relay of the outbox

An event is written to the outbox in the turn it comes from, and a relay publishes what is written
there: it reads the rows that are not published, hands each of them over, and marks it. A row that
could not be handed over stays as it is, for the next relay.

Only the event that a subscription is to be onboarded has a destination, and only where the address
of one is configured. Every other row is marked all the same, so its event is neither handed over
nor pending from then on. `relay_accounts_iff` says that this is the only way in which the relay
loses an event.
-/

namespace NxTutors.DemoAgent

open Effect

/-! ## Rows -/

/-- Somebody is there for the event of the row. -/
def OutboxRow.addressed (cfg : Config) (row : OutboxRow) : Bool :=
  row.event = "onboarding.requested" && cfg.onboardingWebhookUrl ≠ ""

/-- The call that hands the row over. -/
def OutboxRow.dispatch (cfg : Config) (row : OutboxRow) : Op :=
  .dispatch row.event row.idempotencyKey row.payload cfg.onboardingWebhookUrl

/-- The row was handed over to its destination. -/
def OutboxRow.dispatched (cfg : Config) (row : OutboxRow) (calls : History ports Exn) : Prop :=
  ⟨row.dispatch cfg, .ok ()⟩ ∈ calls

/-- An attempt to hand it over raised. -/
def OutboxRow.failed (cfg : Config) (row : OutboxRow) (calls : History ports Exn) : Prop :=
  ∃ exn, ⟨row.dispatch cfg, .error exn⟩ ∈ calls

/-- Rows have different identifiers and different keys, as the indexes of the table have it. -/
structure Indexed (rows : List OutboxRow) : Prop where
  ids : (rows.map OutboxRow.outboxId).Nodup
  keys : (rows.map OutboxRow.idempotencyKey).Nodup

theorem Indexed.eq_of_id {rows : List OutboxRow} (h : Indexed rows) {row row' : OutboxRow}
    (hrow : row ∈ rows) (hrow' : row' ∈ rows) (heq : row.outboxId = row'.outboxId) : row = row' :=
  List.inj_on_of_nodup_map h.ids hrow hrow' heq

theorem OutboxRow.dispatch_inj {cfg : Config} {row row' : OutboxRow} {r r' : Except Exn Unit}
    (h : (⟨row.dispatch cfg, r⟩ : Call ports Exn) = ⟨row'.dispatch cfg, r'⟩) :
    row.dispatch cfg = row'.dispatch cfg ∧ r = r' := by
  injection h with hcall hr
  exact ⟨hcall, hr⟩

theorem Indexed.sublist {rows some : List OutboxRow} (h : Indexed rows) (hsub : some.Sublist rows) :
    Indexed some :=
  ⟨h.ids.sublist (hsub.map _), h.keys.sublist (hsub.map _)⟩

/-- What was handed over says which row it was. -/
theorem Indexed.eq_of_dispatch {cfg : Config} {rows : List OutboxRow} (h : Indexed rows)
    {row row' : OutboxRow} (hrow : row ∈ rows) (hrow' : row' ∈ rows)
    (heq : row.dispatch cfg = row'.dispatch cfg) : row = row' := by
  injection heq with _ hkey
  exact List.inj_on_of_nodup_map h.keys hrow hrow' hkey

/-- A row with one of the identifiers is marked. -/
def OutboxRow.mark (now : Time) (ids : List String) (row : OutboxRow) : OutboxRow :=
  if row.outboxId ∈ ids then { row with publishedAt := some now } else row

/-- The rows a relay reads. -/
def World.pending {C : Type} (w : World C) : List OutboxRow :=
  (w.outbox.filter fun row => row.publishedAt.isNone).take 100

theorem World.mem_pending {C : Type} {w : World C} {row : OutboxRow} (h : row ∈ w.pending) :
    row ∈ w.outbox ∧ row.publishedAt = none := by
  obtain ⟨hmem, hnone⟩ := List.mem_filter.mp (List.mem_of_mem_take h)
  exact ⟨hmem, Option.isNone_iff_eq_none.mp hnone⟩

/-! ## What a relay does -/

/-- **What a relay does with a row**: which calls it makes, and which identifiers it marks. -/
inductive OutboxRow.Relayed (cfg : Config) (now : Time) (row : OutboxRow) :
    History ports Exn → List String → Prop
  | published (haddressed : row.addressed cfg = true) :
    Relayed cfg now row
      [⟨row.dispatch cfg, .ok ()⟩, ⟨.markPublished row.outboxId now, .ok ()⟩] [row.outboxId]
  | failed (haddressed : row.addressed cfg = true) (exn : Exn) :
    Relayed cfg now row [⟨row.dispatch cfg, .error exn⟩] []
  | unaddressed (haddressed : row.addressed cfg = false) :
    Relayed cfg now row [⟨.markPublished row.outboxId now, .ok ()⟩] [row.outboxId]

/-- The rows are relayed one after another. -/
inductive Relays (cfg : Config) (now : Time) :
    List OutboxRow → History ports Exn → List String → Prop
  | nil : Relays cfg now [] [] []
  | cons {row : OutboxRow} {rest : List OutboxRow} {calls more : History ports Exn}
      {ids others : List String} (hrow : row.Relayed cfg now calls ids)
      (hrest : Relays cfg now rest more others) :
    Relays cfg now (row :: rest) (calls ++ more) (ids ++ others)

section Relays

variable {cfg : Config} {now : Time} {row : OutboxRow} {rows : List OutboxRow}
  {calls : History ports Exn} {ids : List String}

/-- What is handed over is the row, and it has a destination. It is marked only if nothing was
raised. -/
theorem OutboxRow.Relayed.of_dispatch (h : row.Relayed cfg now calls ids) {row' : OutboxRow}
    {r : Except Exn Unit} (hcall : ⟨row'.dispatch cfg, r⟩ ∈ calls) :
    row.dispatch cfg = row'.dispatch cfg ∧ row.addressed cfg = true ∧
      (row.outboxId ∈ ids → r = .ok ()) := by
  cases h with
  | published haddressed =>
    rcases List.mem_cons.mp hcall with heq | hcall
    · obtain ⟨hdispatch, hr⟩ := OutboxRow.dispatch_inj heq
      exact ⟨hdispatch.symm, haddressed, fun _ => hr⟩
    · cases List.mem_singleton.mp hcall
  | failed haddressed exn =>
    obtain ⟨hdispatch, -⟩ := OutboxRow.dispatch_inj (List.mem_singleton.mp hcall)
    exact ⟨hdispatch.symm, haddressed, fun hid => absurd hid List.not_mem_nil⟩
  | unaddressed haddressed => cases List.mem_singleton.mp hcall

/-- A row is marked under its own identifier. -/
theorem OutboxRow.Relayed.of_mem (h : row.Relayed cfg now calls ids) {id : String}
    (hid : id ∈ ids) : id = row.outboxId := by
  cases h with
  | published haddressed => exact List.mem_singleton.mp hid
  | failed haddressed exn => cases hid
  | unaddressed haddressed => exact List.mem_singleton.mp hid

/-- Every identifier that is marked is that of a row. -/
theorem Relays.of_mem (h : Relays cfg now rows calls ids) {id : String} (hid : id ∈ ids) :
    ∃ row ∈ rows, id = row.outboxId := by
  induction h with
  | nil => cases hid
  | @cons row rest calls more ids others hrow hrest ih =>
    rcases List.mem_append.mp hid with hid | hid
    · exact ⟨row, List.mem_cons_self, hrow.of_mem hid⟩
    · obtain ⟨row', hmem, heq⟩ := ih hid
      exact ⟨row', List.mem_cons_of_mem _ hmem, heq⟩

/-- Everything that is handed over is a row with a destination. -/
theorem Relays.of_dispatch (h : Relays cfg now rows calls ids) {r : Except Exn Unit}
    (hcall : ⟨row.dispatch cfg, r⟩ ∈ calls) :
    ∃ row' ∈ rows, row'.dispatch cfg = row.dispatch cfg ∧ row'.addressed cfg = true := by
  induction h with
  | nil => cases hcall
  | @cons first rest calls more ids others hrow hrest ih =>
    rcases List.mem_append.mp hcall with hcall | hcall
    · obtain ⟨hdispatch, haddressed, -⟩ := hrow.of_dispatch hcall
      exact ⟨first, List.mem_cons_self, hdispatch, haddressed⟩
    · obtain ⟨row', hmem, hrow'⟩ := ih hcall
      exact ⟨row', List.mem_cons_of_mem _ hmem, hrow'⟩

/-- A row that could not be handed over is not marked. -/
theorem Relays.failed_not_marked (h : Relays cfg now rows calls ids) (hrows : Indexed rows)
    (hmem : row ∈ rows) (hfailed : row.failed cfg calls) : row.outboxId ∉ ids := by
  obtain ⟨exn, hcall⟩ := hfailed
  induction h with
  | nil => cases hmem
  | @cons first rest calls more ids others hrow hrest ih =>
    obtain ⟨hfirst, hids⟩ := List.nodup_cons.mp hrows.ids
    have hother : ∀ x ∈ rest, x ≠ first := fun x hx heq =>
      hfirst (heq ▸ List.mem_map_of_mem hx)
    intro hid
    rcases List.mem_append.mp hcall with hcall | hcall
    · -- it is the first, so it is not among the others
      obtain ⟨hdispatch, -, hok⟩ := hrow.of_dispatch hcall
      obtain rfl := hrows.eq_of_dispatch List.mem_cons_self hmem hdispatch
      rcases List.mem_append.mp hid with hid | hid
      · cases hok hid
      · obtain ⟨row', hmem', heq⟩ := hrest.of_mem hid
        exact hfirst (heq ▸ List.mem_map_of_mem hmem')
    · obtain ⟨row', hmem', hdispatch, -⟩ := hrest.of_dispatch hcall
      obtain rfl := hrows.eq_of_dispatch (List.mem_cons_of_mem _ hmem') hmem hdispatch
      rcases List.mem_append.mp hid with hid | hid
      · exact hother _ hmem' (hrows.eq_of_id hmem List.mem_cons_self (hrow.of_mem hid))
      · exact ih ⟨hids, hrows.keys.of_cons⟩ hmem' hcall hid

/-- A row that is marked was handed over, if it has a destination. -/
theorem Relays.marked_dispatched (h : Relays cfg now rows calls ids) (hrows : Indexed rows)
    (hmem : row ∈ rows) (haddressed : row.addressed cfg = true) (hid : row.outboxId ∈ ids) :
    row.dispatched cfg calls := by
  induction h with
  | nil => cases hmem
  | @cons first rest calls more ids others hrow hrest ih =>
    rcases List.mem_append.mp hid with hid | hid
    · obtain rfl := hrows.eq_of_id hmem List.mem_cons_self (hrow.of_mem hid)
      cases hrow with
      | published => exact List.mem_append_left _ List.mem_cons_self
      | failed => cases hid
      | unaddressed hnone => rw [hnone] at haddressed; cases haddressed
    · obtain ⟨row', hmem', heq⟩ := hrest.of_mem hid
      obtain rfl := hrows.eq_of_id hmem (List.mem_cons_of_mem _ hmem') heq
      exact List.mem_append_right _ (ih ⟨hrows.ids.of_cons, hrows.keys.of_cons⟩ hmem' hid)

/-- A row without a destination is marked. -/
theorem Relays.unaddressed_marked (h : Relays cfg now rows calls ids) (hmem : row ∈ rows)
    (haddressed : row.addressed cfg = false) : row.outboxId ∈ ids := by
  induction h with
  | nil => cases hmem
  | @cons first rest calls more ids others hrow hrest ih =>
    rcases List.mem_cons.mp hmem with rfl | hmem
    · cases hrow with
      | published hsome => rw [hsome] at haddressed; cases haddressed
      | failed hsome => rw [hsome] at haddressed; cases haddressed
      | unaddressed => exact List.mem_append_left _ List.mem_cons_self
    · exact List.mem_append_right _ (ih hmem)

end Relays

/-! ## Runs -/

/-- The setting in which repositories answer. What is outside may raise. -/
def relaying {C : Type} [ConversationRepository C] : Setting ports Exn (World C) :=
  ⟨fun o a r b => Answers o a r b ∧ (o.kind = .repository → ∀ name, r ≠ .error (.other name)), Eq⟩

/-- The rows with these identifiers are marked. -/
def World.marked {C : Type} (w : World C) (now : Time) (ids : List String) : World C :=
  { w with outbox := w.outbox.map (OutboxRow.mark now ids) }

section Runs

variable {C : Type} [ConversationRepository C] {cfg : Config} {now : Time}
  {a : World C × History ports Exn}

omit [ConversationRepository C] in
theorem World.marked_nil (w : World C) : w.marked now [] = w := by
  have hsame : w.outbox.map (OutboxRow.mark now []) = w.outbox :=
    List.map_id'' (fun row => if_neg List.not_mem_nil) _
  rw [World.marked, hsame]

omit [ConversationRepository C] in
theorem World.marked_append (w : World C) (ids others : List String) :
    (w.marked now ids).marked now others = w.marked now (ids ++ others) := by
  rw [World.marked, World.marked, World.marked, List.map_map]
  congr 1
  refine List.map_congr_left fun row _ => ?_
  simp only [Function.comp_apply, OutboxRow.mark, List.mem_append]
  split <;> split <;> simp_all

/-- Marking a row marks it. -/
theorem answers_markPublished {id : String} {r : Except Exn Unit} {b : World C × History ports Exn}
    (h : relaying.logged.answers (.markPublished id now) a r b) :
    r = .ok () ∧ b = (a.1.marked now [id], a.2 ++ [⟨.markPublished id now, .ok ()⟩]) := by
  obtain ⟨⟨hans, hanswers⟩, hlog⟩ := h
  have hmark : OutboxRow.mark now [id] = fun row =>
      if row.outboxId = id then { row with publishedAt := some now } else row := by
    funext row
    simp only [OutboxRow.mark, List.mem_singleton]
  rcases hans.repository rfl with ⟨rfl, hworld⟩ | ⟨⟨name, hname⟩, -⟩
  · refine ⟨rfl, Prod.ext ?_ hlog⟩
    rw [hworld, World.marked, hmark]
    rfl
  · exact absurd hname (hanswers rfl name)

/-- A call to the outside leaves the world alone. -/
theorem answers_outside {o : Op} {r : Except Exn o.Res} {b : World C × History ports Exn}
    (ho : o.kind = .outside) (h : relaying.logged.answers o a r b) :
    b = (a.1, a.2 ++ [⟨o, r⟩]) := by
  obtain ⟨⟨hans, -⟩, hlog⟩ := h
  exact Prod.ext (hans.of_outside ho) hlog

theorem moves_relaying {b : World C × History ports Exn} (h : relaying.logged.moves a b) : b = a :=
  Prod.ext (Eq.symm h.1) h.2

/-- Marking a row, at the end of its part. -/
theorem mark_meets {id : String} {Q : Except Exn Nat → World C × History ports Exn → Prop}
    (hQ : Q (.ok 1) (a.1.marked now [id], a.2 ++ [⟨.markPublished id now, .ok ()⟩])) :
    Meets relaying.logged (fun _ _ => True) Q
      (ask (.markPublished id now) >>= fun _ => pure 1) a := by
  refine Meets.perform_bind fun a₁ hmove r b hans => ?_
  obtain rfl := moves_relaying hmove
  obtain ⟨rfl, rfl⟩ := answers_markPublished hans
  exact ⟨trivial, fun _ _ => hQ, fun exn heq => by cases heq⟩

/-- A row is handed over, if it has a destination, and then it is marked. -/
theorem relayRow_eq (row : OutboxRow) :
    relayRow cfg now row = (if row.addressed cfg = true then
        ask (row.dispatch cfg) >>= fun _ => ask (.markPublished row.outboxId now) >>= fun _ => pure 1
      else ask (.markPublished row.outboxId now) >>= fun _ => pure 1 : Act Nat).tryCatch
        fun _ => pure 0 := rfl

/-- **One row** is relayed, whatever comes of it. -/
theorem relayRow_meets (row : OutboxRow) : Meets relaying.logged (fun _ _ => True)
    (fun out b => (∃ n, out = .ok n) ∧ ∃ calls ids, row.Relayed cfg now calls ids ∧
      b = (a.1.marked now ids, a.2 ++ calls)) (relayRow cfg now row) a := by
  rw [relayRow_eq]
  refine Meets.tryCatch (M := fun out b => ((∃ n, out = .ok n) ∧ ∃ calls ids,
      row.Relayed cfg now calls ids ∧ b = (a.1.marked now ids, a.2 ++ calls)) ∨
    ((∃ exn, out = .error exn) ∧ ∃ exn, row.addressed cfg = true ∧
      b = (a.1, a.2 ++ [⟨row.dispatch cfg, .error exn⟩]))) ?_ ?_ ?_
  · by_cases haddressed : row.addressed cfg = true
    · rw [if_pos haddressed]
      refine Meets.perform_bind fun a₁ hmove r b hans => ?_
      obtain rfl := moves_relaying hmove
      obtain rfl := answers_outside rfl hans
      refine ⟨trivial, ?_, fun exn hr => ?_⟩
      · rintro ⟨⟩ rfl
        refine mark_meets (.inl ⟨⟨1, rfl⟩, _, _, .published haddressed, ?_⟩)
        rw [List.append_assoc]
        rfl
      · subst hr
        exact .inr ⟨⟨exn, rfl⟩, exn, haddressed, rfl⟩
    · rw [if_neg haddressed]
      exact mark_meets (.inl ⟨⟨1, rfl⟩, _, _, .unaddressed (by simpa using haddressed), rfl⟩)
  · rintro n b (⟨-, h⟩ | ⟨⟨exn, heq⟩, -⟩)
    · exact ⟨⟨n, rfl⟩, h⟩
    · cases heq
  · rintro exn b (⟨⟨n, heq⟩, -⟩ | ⟨-, exn', haddressed, hb⟩)
    · cases heq
    · refine ⟨⟨0, rfl⟩, _, _, .failed haddressed exn', ?_⟩
      rw [World.marked_nil]
      exact hb

/-- **All rows** are relayed, one after another. -/
theorem relayAll_meets (rows : List OutboxRow) (published : Nat) :
    Meets relaying.logged (fun _ _ => True) (fun _ b => ∃ calls ids, Relays cfg now rows calls ids ∧
      b = (a.1.marked now ids, a.2 ++ calls)) (relayAll cfg now rows published) a := by
  induction rows generalizing published a with
  | nil => exact ⟨[], [], .nil, by rw [World.marked_nil, List.append_nil]⟩
  | cons row rest ih =>
    refine (relayRow_meets row).bind (fun n b h => ?_) fun exn b h => ?_
    · obtain ⟨-, calls, ids, hrow, rfl⟩ := h
      refine (ih _).post fun out b' ⟨more, others, hrest, hb'⟩ => ?_
      refine ⟨_, _, .cons hrow hrest, ?_⟩
      rw [hb', World.marked_append, List.append_assoc]
    · obtain ⟨⟨n, heq⟩, -⟩ := h
      cases heq

/-- **The relay** relays the rows that are pending. -/
theorem relay_meets : Meets relaying.logged (fun _ _ => True) (fun _ b => ∃ calls ids,
    Relays cfg a.1.clock a.1.pending calls ids ∧
      b = (a.1.marked a.1.clock ids, a.2 ++ ⟨.now, .ok a.1.clock⟩ ::
        ⟨.unpublished 100, .ok a.1.pending⟩ :: calls)) (relay cfg) a := by
  refine Meets.perform_bind fun a₁ hmove r b hans => ?_
  obtain rfl := moves_relaying hmove
  obtain ⟨⟨hnow, -⟩, hlog⟩ := hans
  obtain ⟨hworld, rfl⟩ := hnow.of_now
  obtain rfl : b = (a₁.1, a₁.2 ++ [⟨.now, .ok a₁.1.clock⟩]) := Prod.ext hworld hlog
  refine ⟨trivial, ?_, fun exn heq => by cases heq⟩
  rintro (now : Time) hok
  obtain rfl : a₁.1.clock = now := Except.ok.inj hok
  refine Meets.perform_bind fun b₁ hmove r c hans => ?_
  obtain rfl := moves_relaying hmove
  obtain ⟨⟨hunpublished, hanswers⟩, hlog'⟩ := hans
  obtain ⟨hworld', rfl | ⟨name, hname⟩⟩ := hunpublished.read rfl rfl
  · obtain rfl : c = (a₁.1, a₁.2 ++ [⟨.now, .ok a₁.1.clock⟩] ++
      [⟨.unpublished 100, .ok a₁.1.pending⟩]) := Prod.ext hworld' hlog'
    refine ⟨trivial, ?_, fun exn heq => by cases heq⟩
    rintro (rows : List OutboxRow) hread
    obtain rfl : a₁.1.pending = rows := Except.ok.inj hread
    refine (relayAll_meets _ _).bind (fun n d h => ?_) fun exn d h => ?_
    · obtain ⟨calls, ids, hrelays, rfl⟩ := h
      exact ⟨calls, ids, hrelays, by simp⟩
    · obtain ⟨calls, ids, hrelays, rfl⟩ := h
      exact ⟨calls, ids, hrelays, by simp⟩
  · exact absurd hname (hanswers rfl name)

end Runs

/-! ## What is lost -/

/-- **Every event is accounted for**: what a relay has marked was handed over, what it could not
hand over is neither marked nor lost, and whatever was pending was handed over, or is pending. -/
structure Accounts {C : Type} (cfg : Config) (a : World C) (calls : History ports Exn)
    (b : World C) : Prop where
  marked : ∀ row ∈ a.outbox, row.publishedAt = none →
    (∃ row' ∈ b.outbox, row'.outboxId = row.outboxId ∧ row'.publishedAt ≠ none) →
      row.dispatched cfg calls
  failed : ∀ row ∈ a.outbox, row.publishedAt = none → row.failed cfg calls → row ∈ b.outbox
  kept : ∀ row ∈ a.outbox, row.publishedAt = none → row.dispatched cfg calls ∨ row ∈ b.outbox

section Accounting

variable {C : Type} {cfg : Config} {a b : World C} {calls : History ports Exn} {now : Time}
  {ids : List String} {row : OutboxRow}

theorem World.mem_marked (hrow : row ∈ a.outbox) (hid : row.outboxId ∉ ids) :
    row ∈ (a.marked now ids).outbox :=
  List.mem_map.mpr ⟨row, hrow, if_neg hid⟩

/-- A row that is pending is found marked only if it is one of those that were marked. -/
theorem Indexed.of_marked (hrows : Indexed a.outbox) (hrow : row ∈ a.outbox)
    (hnone : row.publishedAt = none) {row' : OutboxRow} (hrow' : row' ∈ (a.marked now ids).outbox)
    (hsame : row'.outboxId = row.outboxId) (hmarked : row'.publishedAt ≠ none) :
    row.outboxId ∈ ids := by
  obtain ⟨x, hx, rfl⟩ := List.mem_map.mp hrow'
  have hid : (x.mark now ids).outboxId = x.outboxId := by
    unfold OutboxRow.mark
    split <;> rfl
  obtain rfl := hrows.eq_of_id hx hrow (hid.symm.trans hsame)
  by_contra hnot
  rw [OutboxRow.mark, if_neg hnot] at hmarked
  exact hmarked hnone

/-- A row that is marked is one of those that were relayed. -/
theorem Relays.mem_of_marked (h : Relays cfg now a.pending calls ids) (hrows : Indexed a.outbox)
    (hrow : row ∈ a.outbox) (hid : row.outboxId ∈ ids) : row ∈ a.pending := by
  obtain ⟨row', hmem, heq⟩ := h.of_mem hid
  obtain rfl := hrows.eq_of_id hrow (World.mem_pending hmem).1 heq
  exact hmem

/-- A row that was handed over, or could not be, is one of those that were relayed. -/
theorem Relays.mem_of_dispatch (h : Relays cfg now a.pending calls ids) (hrows : Indexed a.outbox)
    (hrow : row ∈ a.outbox) {r : Except Exn Unit} (hcall : ⟨row.dispatch cfg, r⟩ ∈ calls) :
    row ∈ a.pending ∧ row.addressed cfg = true := by
  obtain ⟨row', hmem, hdispatch, haddressed⟩ := h.of_dispatch hcall
  obtain rfl := hrows.eq_of_dispatch (World.mem_pending hmem).1 hrow hdispatch
  exact ⟨hmem, haddressed⟩

variable [ConversationRepository C] {out : Except Exn (Nat × Nat)}

/-- **A relay accounts for every event exactly if each row it reads has a destination.** -/
theorem relay_accounts_iff (hrows : Indexed a.outbox)
    (hrun : Run relaying.logged (relay cfg) (a, []) out (b, calls)) :
    Accounts cfg a calls b ↔ ∀ row ∈ a.pending, row.addressed cfg = true := by
  obtain ⟨calls', ids, hrelays, heq⟩ := relay_meets.run hrun
  obtain ⟨rfl, hcalls⟩ := Prod.ext_iff.mp heq
  obtain rfl : calls = ⟨.now, .ok a.clock⟩ :: ⟨.unpublished 100, .ok a.pending⟩ :: calls' := hcalls
  have hpending : Indexed a.pending := hrows.sublist
    ((List.take_sublist _ _).trans List.filter_sublist)
  -- the calls before are not of the rows
  have hlater : ∀ row r, (⟨OutboxRow.dispatch cfg row, r⟩ : Call ports Exn) ∈
      (⟨.now, .ok a.clock⟩ :: ⟨.unpublished 100, .ok a.pending⟩ :: calls' : History ports Exn) →
      ⟨row.dispatch cfg, r⟩ ∈ calls' := by
    intro row r hmem
    rcases List.mem_cons.mp hmem with heq | hmem
    · cases heq
    · rcases List.mem_cons.mp hmem with heq | hmem
      · cases heq
      · exact hmem
  constructor
  · intro h row hmem
    by_contra hnone
    obtain ⟨hrow, hpublished⟩ := World.mem_pending hmem
    have hid : row.outboxId ∈ ids := hrelays.unaddressed_marked hmem (by simpa using hnone)
    have hmark : row.mark a.clock ids = { row with publishedAt := some a.clock } := if_pos hid
    have hdispatched := h.marked row hrow hpublished
      ⟨_, List.mem_map_of_mem hrow, by rw [hmark], by rw [hmark]; exact Option.some_ne_none _⟩
    exact hnone (hrelays.mem_of_dispatch hrows hrow (hlater _ _ hdispatched)).2
  · intro haddressed
    have hdispatched : ∀ row ∈ a.outbox, row.outboxId ∈ ids → row.dispatched cfg
        (⟨.now, .ok a.clock⟩ :: ⟨.unpublished 100, .ok a.pending⟩ :: calls') := by
      intro row hrow hid
      have hmem := hrelays.mem_of_marked hrows hrow hid
      exact List.mem_cons_of_mem _ (List.mem_cons_of_mem _
        (hrelays.marked_dispatched hpending hmem (haddressed row hmem) hid))
    refine ⟨fun row hrow hnone hmarked => ?_, fun row hrow hnone hfailed => ?_,
      fun row hrow hnone => ?_⟩
    · obtain ⟨row', hrow', hsame, hpublished⟩ := hmarked
      exact hdispatched row hrow (hrows.of_marked hrow hnone hrow' hsame hpublished)
    · obtain ⟨exn, hcall⟩ := hfailed
      have hcall' := hlater _ _ hcall
      have hmem := (hrelays.mem_of_dispatch hrows hrow hcall').1
      exact World.mem_marked hrow (hrelays.failed_not_marked hpending hmem ⟨exn, hcall'⟩)
    · by_cases hid : row.outboxId ∈ ids
      · exact .inl (hdispatched row hrow hid)
      · exact .inr (World.mem_marked hrow hid)

end Accounting

/-- What a call is answered when all that goes wrong is that nobody takes an event. -/
def World.undelivered {C : Type} [ConversationRepository C] (w : World C) :
    (o : Op) → Except Exn o.Res × World C
  | .dispatch .. => (.error (.other "TimeoutError"), w)
  | o => w.smooth o

/-- A repository in which nothing goes wrong raises nothing of its own. -/
theorem World.answer_ne_other {C : Type} [ConversationRepository C] (w : World C) (o : Op)
    (ho : o.kind = .repository) (name : String) : (w.answer o).1 ≠ .error (.other name) := by
  intro heq
  cases o with
  | saveTransition result now facts =>
    have hmap : (ConversationRepository.saveTransition w.conversations result now facts).1.mapError
        Exn.conflict = .error (.other name) := heq
    cases hsave : (ConversationRepository.saveTransition w.conversations result now facts).1 with
    | ok s => rw [hsave] at hmap; cases hmap
    | error c => rw [hsave] at hmap; cases hmap
  | claim | recordEvent | claimSend =>
    simp only [World.answer] at heq
    split at heq <;> cases heq
  | _ => first | (cases ho; done) | cases heq

theorem run_undelivered {C : Type} [ConversationRepository C] {α : Type} (p : Act α) (w : World C) :
    Run relaying.logged p (w, []) (play (scribe fun _ o w => w.undelivered o) 0 p (w, [])).1
      (play (scribe fun _ o w => w.undelivered o) 0 p (w, [])).2 := by
  have hf : ∀ (n : Nat) (o : Op) (w : World C), ∃ w₁, relaying.moves w w₁ ∧
      relaying.answers o w₁ (w.undelivered o).1 (w.undelivered o).2 := by
    intro n o w
    refine ⟨w, rfl, ?_, fun hkind => ?_⟩
    · cases o with
      | dispatch => exact .outsideRaised _ rfl
      | _ => exact answers_smooth _ w
    · have hstored : w.undelivered o = w.answer o := by
        cases o with
        | _ => first | rfl | cases hkind
      rw [hstored]
      exact w.answer_ne_other o hkind
  exact run_play (scribe_possible hf) 0 p (w, [])

/-- A row whose event has a destination. -/
def onboarding : OutboxRow where
  outboxId := "1"
  event := "onboarding.requested"
  payload := Facts.empty
  idempotencyKey := "a"

/-- One whose event has none. -/
def scheduledDemo : OutboxRow where
  outboxId := "2"
  event := "demo.scheduled"
  payload := Facts.empty
  idempotencyKey := "b"

/-- The address of the onboarding agent is configured. -/
def addressedConfig : Config := { plainConfig with onboardingWebhookUrl := "https://onboarding" }

/-- An event that nobody takes is accounted for: it stays pending. -/
theorem undelivered_accounted : ∃ (a b : World InMemoryConversations) (calls : History ports Exn)
    (out : Except Exn (Nat × Nat)), Run relaying.logged (relay addressedConfig) (a, []) out (b, calls) ∧
      a.pending.length = 1 ∧ Accounts addressedConfig a calls b := by
  have hrun := run_undelivered (relay addressedConfig)
    ({ conversations := {}, outbox := [onboarding] } : World InMemoryConversations)
  refine ⟨_, _, _, _, hrun, rfl, (relay_accounts_iff ⟨by decide, by decide⟩ hrun).mpr ?_⟩
  intro row hrow
  obtain rfl := List.mem_singleton.mp hrow
  decide

/-- **An event without a destination is lost**: it was not handed over, and is not pending. -/
theorem unaddressed_lost : ∃ (a b : World InMemoryConversations) (calls : History ports Exn)
    (out : Except Exn (Nat × Nat)), Indexed a.outbox ∧
      Run relaying.logged (relay addressedConfig) (a, []) out (b, calls) ∧
        ¬ Accounts addressedConfig a calls b := by
  have hrun := run_undelivered (relay addressedConfig)
    ({ conversations := {}, outbox := [scheduledDemo] } : World InMemoryConversations)
  refine ⟨_, _, _, _, ⟨by decide, by decide⟩, hrun, fun h => ?_⟩
  rcases h.kept scheduledDemo List.mem_cons_self rfl with hdispatched | hpending
  · rcases List.mem_cons.mp hdispatched with heq | hmem
    · cases heq
    · rcases List.mem_cons.mp hmem with heq | hmem
      · cases heq
      · cases List.mem_singleton.mp hmem
  · have hpublished := congrArg OutboxRow.publishedAt (List.mem_singleton.mp hpending)
    cases hpublished

end NxTutors.DemoAgent
