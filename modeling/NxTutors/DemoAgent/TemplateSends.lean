import NxTutors.DemoAgent.MessageKeys
import NxTutors.DemoAgent.Rescheduling
import NxTutors.DemoAgent.SendOnce
import NxTutors.DemoAgent.Undisturbed

/-!
# Templates that are sent

The registry has the last word on templates: `bind` refuses what is not approved, what is not
approved in a language, and variables that are too few, too many or blank. Commands bind all their
templates with it. A reminder does not. It puts its binding together from its row and from the
language of its demo, and the boundary, which is there to stop what is not approved, looks at the
name and at nothing else. So the registry is honoured by a run whose reminders would have passed:
`templates_honoured_iff`. All templates being approved in English only, those of a demo in Hindi do
not.
-/

namespace NxTutors.DemoAgent

open Effect

/-! ## What the registry accepts -/

/-- A binding that the registry has accepted, or would. -/
def TemplateBinding.Accepted (cfg : Config) (binding : TemplateBinding) : Prop :=
  Template.bind cfg.tables binding.name binding.language binding.positionalVariables = .ok binding

/-- **A message honours the registry**: if it carries a binding, it carries one that `bind`
accepts. -/
def OutboundMessage.Honours (cfg : Config) (m : OutboundMessage) : Prop :=
  ∀ binding, m.template = some binding → binding.Accepted cfg

theorem accepted_of_bind {cfg : Config} {name language : String} {values : List String}
    {binding : TemplateBinding}
    (h : (Template.bind cfg.tables name language values).toOption = some binding) :
    binding.Accepted cfg := by
  cases hbind : Template.bind cfg.tables name language values with
  | error e =>
    rw [hbind] at h
    cases h
  | ok accepted =>
    rw [hbind] at h
    obtain rfl : accepted = binding := Option.some.inj h
    obtain ⟨rfl, -⟩ := Template.bind_eq_ok hbind
    exact hbind

theorem windowSafeTemplate_accepted {cfg : Config} {kind : MessageKind} {demo : Option Demo}
    {binding : TemplateBinding} (h : windowSafeTemplate cfg kind demo = some binding) :
    binding.Accepted cfg := by
  obtain ⟨name, -, h⟩ := Option.bind_eq_some_iff.mp h
  obtain ⟨template, -, h⟩ := Option.bind_eq_some_iff.mp h
  exact accepted_of_bind h

/-- **Whatever a command writes honours the registry.** -/
theorem WrittenFrom.honours {cfg : Config} {ref : String} {d : Draft} {m : OutboundMessage}
    (h : WrittenFrom cfg ref d m) : m.Honours cfg := by
  intro binding hbinding
  rw [h.template] at hbinding
  cases d with
  | tutorRequest demo tutor =>
    obtain ⟨slot, -, hbind⟩ := Option.bind_eq_some_iff.mp hbinding
    exact accepted_of_bind hbind
  | tutorExpired demo tutor => exact accepted_of_bind hbinding
  | confirmation demo => exact @windowSafeTemplate_accepted _ .confirmation _ _ hbinding
  | followup demo body => exact @windowSafeTemplate_accepted _ .followup _ _ hbinding
  | cancellation demo => exact @windowSafeTemplate_accepted _ .cancellation _ _ hbinding
  | question | tutorOptions | slotProposal | paymentLink | welcome => cases hbinding

/-! ## Reminders -/

/-- What a demo itself has to say for a variable of a template. -/
def Demo.ownText (demo : Demo) : String → String
  | "timezone" => (demo.slot.map TimeSlot.timezone).getD ""
  | "join_link" =>
    let link := demo.meetUrl.getD ""
    if link = "" then demo.locationLabel.getD "" else link
  | "reference" => demo.demoId
  | _ => ""

/-- **A reminder that the registry would accept**: its template is approved, also in the language of
the demo, and what the demo says for a variable is either nothing at all, for which a dash is put,
or more than white space. -/
def ScheduledReminder.Sendable (cfg : Config) (r : ScheduledReminder) (demo : Demo) : Prop :=
  ∃ template, Template.get r.template = .ok template ∧ demo.language.value ∈ template.languages ∧
    ∀ field ∈ template.positionalVariables, demo.ownText field = "" ∨
      ∃ c ∈ (demo.ownText field).toList, cfg.tables.isSpace c = false

/-- The variables that templates have. -/
def TEMPLATE_FIELDS : List String := ["demo_datetime", "timezone", "join_link", "reference"]

theorem mem_templateFields {name : String} {template : Template}
    (h : Template.get name = .ok template) :
    ∀ field ∈ template.positionalVariables, field ∈ TEMPLATE_FIELDS := by
  have hmem : template ∈ TEMPLATES := by
    unfold Template.get at h
    split at h
    · cases h
    · rename_i found hfound
      split at h
      · cases h
        exact List.mem_of_find?_eq_some hfound
      · cases h
  have hfields : ∀ template ∈ TEMPLATES, ∀ field ∈ template.positionalVariables,
      field ∈ TEMPLATE_FIELDS := by decide
  exact hfields template hmem

section Reminders

variable {cfg : Config} {r : ScheduledReminder} {demo : Demo}

/-- A dash takes the place of nothing at all. -/
theorem strip_orDash_iff (hdash : cfg.tables.isSpace '-' = false) {s : String} :
    Text.strip cfg.tables (if s = "" then "-" else s) ≠ "" ↔
      s = "" ∨ ∃ c ∈ s.toList, cfg.tables.isSpace c = false := by
  rw [ne_eq, Text.strip_eq_empty_iff]
  by_cases hs : s = ""
  · rw [if_pos hs]
    refine ⟨fun _ => .inl hs, fun _ hall => ?_⟩
    rw [hall '-' (by decide)] at hdash
    cases hdash
  · rw [if_neg hs]
    simp [hs]

/-- A time, as a template shows it, is more than white space. -/
theorem label_colon (slot : TimeSlot) : ':' ∈ (slot.labelWithoutZone cfg.zones).toList := by
  simp [TimeSlot.labelWithoutZone]

theorem strip_reminderValue_iff (hdash : cfg.tables.isSpace '-' = false)
    (hcolon : cfg.tables.isSpace ':' = false) {field : String} (hfield : field ∈ TEMPLATE_FIELDS) :
    Text.strip cfg.tables (reminderValue cfg demo field) ≠ "" ↔
      demo.ownText field = "" ∨ ∃ c ∈ (demo.ownText field).toList, cfg.tables.isSpace c = false := by
  simp only [TEMPLATE_FIELDS, List.mem_cons, List.not_mem_nil, or_false] at hfield
  rcases hfield with rfl | rfl | rfl | rfl
  · refine iff_of_true ((strip_orDash_iff hdash).mpr ?_) (.inl rfl)
    cases hslot : demo.slot with
    | none => exact .inl (by simp [hslot])
    | some slot => exact .inr ⟨':', by simpa [hslot] using label_colon slot, hcolon⟩
  · exact strip_orDash_iff hdash
  · exact strip_orDash_iff hdash
  · exact strip_orDash_iff hdash

/-- **A reminder honours the registry just when it would accept it.** -/
theorem message_honours_iff (hdash : cfg.tables.isSpace '-' = false)
    (hcolon : cfg.tables.isSpace ':' = false) (createdAt : Time) :
    (r.message demo (reminderVariables cfg r demo) createdAt).Honours cfg ↔
      r.Sendable cfg demo := by
  have haccepted : (r.message demo (reminderVariables cfg r demo) createdAt).Honours cfg ↔
      Template.bind cfg.tables r.template demo.language.value (reminderVariables cfg r demo) =
        .ok ⟨r.template, demo.language.value, reminderVariables cfg r demo⟩ := by
    constructor
    · intro h
      exact h _ rfl
    · intro h binding hbinding
      obtain rfl := Option.some.inj hbinding
      exact h
  rw [haccepted, Template.bind_eq_ok_iff, ScheduledReminder.Sendable]
  refine exists_congr fun template => and_congr_right fun hget => and_congr_right fun _ => ?_
  rw [reminderVariables, hget]
  dsimp only
  rw [List.length_map, List.forall_mem_map, and_iff_right rfl]
  exact forall₂_congr fun field hfield =>
    strip_reminderValue_iff hdash hcolon (mem_templateFields hget field hfield)

end Reminders

/-! ## What a run sends -/

/-- Only messages in `P` have been handed to the boundary. -/
def SendsOnly (P : OutboundMessage → Prop) (record : Record) : Prop :=
  ∀ m, Sends record m → P m

/-- The messages that the boundary has passed to WhatsApp on behalf of a call. -/
def deliveredBy (x : Entry ports Exn) : List OutboundMessage :=
  if isSend x.call then x.inner.filterMap deliveryOf else []

/-- **The messages that the boundary has delivered** in the course of a record. -/
def deliveries (record : Record) : List OutboundMessage := record.flatMap deliveredBy

section Runs

variable {C : Type} [ConversationRepository C] {cfg : Config} {ref : String} {e : Event}
  {P : OutboundMessage → Prop} {a b : World C × Record}

/-- A call that is not a send of anything else. -/
theorem SendsOnly.call {o : Op} {r : Except Exn o.Res} (ha : SendsOnly P a.2)
    (h : (serving C cfg ref).answers o a r b) (ho : ∀ m, o = .send m → P m) :
    SendsOnly P b.2 := by
  obtain ⟨⟨call, inner⟩, rfl, -, hrecord⟩ := h
  rw [hrecord]
  intro m hm
  rcases sends_append.mp hm with hm | ⟨x, hx, hsend⟩
  · exact ha m hm
  · obtain rfl := List.mem_singleton.mp hx
    exact ho m hsend

/-- A command leaves in the outbox what was there, and what honours the registry. -/
theorem outbox_honours {command : Command} {ctx : TurnContext} {payload : Facts}
    {effect : CommandEffect}
    (h : (serving C cfg ref).answers (.execute command ctx payload) a (.ok effect) b) :
    ∀ m ∈ effect.outbox, m ∈ ctx.outbox ∨ m.Honours cfg := by
  obtain ⟨⟨call, inner⟩, rfl, hcarries, -⟩ := h
  obtain ⟨-, hguard⟩ := hcarries.record rfl
  obtain ⟨messages, houtbox, hdrafts⟩ := (hguard _ _ execute_says).2 effect rfl
  intro m hm
  rw [houtbox] at hm
  refine (List.mem_append.mp hm).imp id fun hm => ?_
  obtain ⟨d, -, hwritten⟩ := hdrafts m hm
  exact hwritten.honours

/-- **The invariant of a turn** whose commands queue only messages in `P`. -/
def sendingOnly (hP : ∀ m, m.Honours cfg → P m) :
    TurnInvariant (serving C cfg ref) (fun _ _ => True) (fun _ s => SendsOnly P s.2) cfg e where
  holds _ s := SendsOnly P s.2
  queues := P
  move _ a b ha hmove := by
    rw [hmove.2]
    exact ha
  quiet _ o a r b ho ha hans := by
    have hb : SendsOnly P b.2 := ha.call hans fun m hm => by subst hm; cases ho
    obtain ⟨⟨call, inner⟩, rfl, hcarries, -⟩ := hans
    have hnone : components cfg o = none := by
      cases o with
      | execute | send => cases ho
      | _ => rfl
    exact ⟨trivial, hb, Answers.final ho (hcarries.answers hnone).1⟩
  clock a r b ha hans := by
    have hb : SendsOnly P b.2 := ha.call (o := .now) hans fun m hm => by cases hm
    exact ⟨trivial, by cases r <;> exact hb⟩
  claim now a r b ha hans := by
    have hb : SendsOnly P b.2 := ha.call hans fun m hm => by cases hm
    refine ⟨trivial, ?_⟩
    rcases r with exn | taken
    · exact hb
    · cases taken <;> exact hb
  load n a r b ha hans := by
    have hb : SendsOnly P b.2 := ha.call hans fun m hm => by cases hm
    obtain ⟨⟨call, inner⟩, rfl, hcarries, -⟩ := hans
    have hfinal := Answers.final_of_ne (hcarries.answers rfl).1 fun _ _ _ heq => by cases heq
    refine ⟨trivial, ?_⟩
    rcases r with exn | s
    · exact ⟨hfinal exn rfl, hb⟩
    · exact hb
  save n s now facts result a r b ha hfire hans := by
    have hb : SendsOnly P b.2 := ha.call hans fun m hm => by cases hm
    refine ⟨trivial, ?_⟩
    rcases r with exn | s'
    · cases exn <;> exact hb
    · exact hb
  execute n result ctx payload a r b ha hcmd hans := by
    have hb : SendsOnly P b.2 := ha.call hans fun m hm => by cases hm
    exact ⟨trivial, hb, hb⟩
  queued n result command ctx payload a effect b hcmd href' houtbox hans m hm :=
    (outbox_honours hans m hm).elim (houtbox m) (hP m)
  send result m a r b ha hm hans := by
    have hb : SendsOnly P b.2 := ha.call hans fun m' hm' => by cases hm'; exact hm
    obtain ⟨⟨call, inner⟩, rfl, hcarries, -⟩ := hans
    exact ⟨trivial, hb, final_of_send hcarries⟩
  noCommand n result a hnone ha := ha
  compensate n result ctx payload a r b ha hcomp hans :=
    ⟨trivial, ha.call hans fun m hm => by cases hm⟩
  loadFollow n result a r b ha hans := by
    have hb : SendsOnly P b.2 := ha.call hans fun m hm => by cases hm
    obtain ⟨⟨call, inner⟩, rfl, hcarries, -⟩ := hans
    have hfinal := Answers.final_of_ne (hcarries.answers rfl).1 fun _ _ _ heq => by cases heq
    refine ⟨trivial, ?_⟩
    rcases r with exn | s
    · exact ⟨hfinal exn rfl, hb⟩
    · exact hb
  skipFollow n result s facts a refusal ha hfire := ha
  saveFollow n result s now facts follow a r b ha hfire hans := by
    have hb : SendsOnly P b.2 := ha.call hans fun m hm => by cases hm
    refine ⟨trivial, ?_⟩
    rcases r with exn | s'
    · cases exn <;> exact hb
    · exact hb
  lastLoad ph a r b hph ha hans := by
    have hb : SendsOnly P b.2 := ha.call hans fun m hm => by cases hm
    exact ⟨trivial, hb, fun _ _ => hb⟩
  raised ph exn a ha hx := ha
  accepted result tr a ha hacc hdup := ha
  rejected n s facts refusal tr a ha hfire hacc hdup hreason := ha
  exhausted tr a ha hacc hdup := ha
  duplicate tr a ha hacc hdup := ha

variable {w : World C} {deeds : List Deed} {s : World C × Record}

/-- A message is a reminder, as a sweep puts it together. -/
def Reminds (cfg : Config) (m : OutboundMessage) : Prop :=
  ∃ r demo createdAt, m = ScheduledReminder.message r demo (reminderVariables cfg r demo) createdAt

/-- **Whatever is sent in the course of a run** honours the registry or is a reminder. -/
theorem sends_honour_or_remind (hrun : Path (Serves cfg ref) a deeds s)
    (ha : SendsOnly (fun m => m.Honours cfg ∨ Reminds cfg m) a.2) :
    SendsOnly (fun m => m.Honours cfg ∨ Reminds cfg m) s.2 := by
  induction hrun with
  | nil => exact ha
  | @snoc deeds deed t u hpath hserves ih =>
    cases deed with
    | turn e out => exact ((sendingOnly (e := e) fun _ => .inl).handle ih).run hserves.2
    | sweep out =>
      obtain ⟨entries, hrecord, hsweep⟩ := hserves.sweep_record
      rw [hrecord]
      intro m hm
      rcases sends_append.mp hm with hm | ⟨x, hx, hsend⟩
      · exact ih m hm
      · obtain ⟨past, hcall⟩ := hsweep.calls.of_mem (List.mem_map_of_mem hx)
        rw [hsend] at hcall
        cases hcall with
        | send hgoes => exact .inr ⟨_, _, _, rfl⟩
    | rest =>
      rw [hserves.2]
      exact ih

/-- What the boundary has delivered is what it was handed. -/
theorem sent_of_delivered (hrun : Path (Serves cfg ref) (w, []) deeds s) {m : OutboundMessage}
    (hm : m ∈ deliveries s.2) : Sends s.2 m := by
  obtain ⟨⟨⟨o, r⟩, inner⟩, hx, hm⟩ := List.mem_flatMap.mp hm
  obtain ⟨b, b', hcarries⟩ := served_entry hrun rfl hx
  cases o with
  | send sent =>
    obtain ⟨⟨o, answer⟩, hc, hdelivery⟩ := List.mem_filterMap.mp hm
    obtain ⟨-, hguard⟩ := hcarries.record rfl
    have hcalls := (hguard _ _ (Prog.Within.guardedTo (send_within (X := fun _ => True)))).1
    obtain ⟨_, hcall⟩ := hcalls.of_mem hc
    cases hcall with
    | deliver recipient =>
      obtain rfl : sent = m := Option.some.inj hdelivery
      exact ⟨_, hx, rfl⟩
    | _ => cases hdelivery
  | _ => cases hm

/-- **Templates are honoured just when the reminders are that go out.** -/
theorem templates_honoured_iff (hdash : cfg.tables.isSpace '-' = false)
    (hcolon : cfg.tables.isSpace ':' = false)
    (hrun : Path (Serves cfg ref) (w, []) deeds s) :
    (∀ m ∈ deliveries s.2, m.Honours cfg) ↔ ∀ r demo createdAt,
      ScheduledReminder.message r demo (reminderVariables cfg r demo) createdAt ∈ deliveries s.2 →
        r.Sendable cfg demo := by
  constructor
  · intro h r demo createdAt hdelivered
    exact (message_honours_iff hdash hcolon createdAt).mp (h _ hdelivered)
  · intro h m hm
    have hsent := sends_honour_or_remind hrun (fun m hm => absurd hm (not_sends_nil m)) m
      (sent_of_delivered hrun hm)
    rcases hsent with hhonours | ⟨r, demo, createdAt, rfl⟩
    · exact hhonours
    · exact (message_honours_iff hdash hcolon createdAt).mpr (h r demo createdAt hm)

end Runs

/-! ## A reminder in Hindi -/

/-- The boundary knows the names that are approved. -/
def registered : Config := { plainConfig with templateNames := TEMPLATES.map Template.name }

/-- A demo has been booked in a language, and its reminder is due. -/
def remindedIn (language : Language) : World InMemoryConversations where
  clock := 2 * day
  conversations :=
    { states := fun ref => some { conversationRef := ref, state := .remindersActive }
      ownership := fun ref => some { conversationRef := ref, owner := SELF, since := 0 } }
  demos := [{ demoId := "demo_1", conversationRef := "cv_c", language, slot := some tuesday }]
  reminders := [{
    reminderId := "rem_1", demoId := "demo_1", conversationRef := "cv_c", demoRevision := 1,
    label := "T-24h", audience := .student, recipientRef := "cv_c",
    template := TEMPLATE_REMINDER_T24H, fireAt := 2 * day, demoStartsAt := 3 * day }]

/-- A sweep. -/
def swept (language : Language) : List Deed × (World InMemoryConversations × Record) :=
  attendAll registered World.obliging (remindedIn language, []) [.sweep]

instance (cfg : Config) (m : OutboundMessage) : Decidable (m.Honours cfg) :=
  decidable_of_iff (∀ binding ∈ m.template, Template.bind cfg.tables binding.name binding.language
    binding.positionalVariables = .ok binding) Iff.rfl

theorem swept_path (language : Language) : Path (Serves registered "cv_c")
    (remindedIn language, []) (swept language).1 (swept language).2 :=
  attendAll_path answers_obliging (by decide : ∀ task ∈ [Task.sweep], task.Of "cv_c") _

/-- **A reminder in Hindi is delivered**, though no template is approved in Hindi. -/
theorem hindi_reminder_delivered : ∃ (w : World InMemoryConversations) (deeds : List Deed)
    (s : World InMemoryConversations × Record), Path (Serves registered "cv_c") (w, []) deeds s ∧
      registered.templateNames = TEMPLATES.map Template.name ∧
      ∃ m ∈ deliveries s.2, ¬ m.Honours registered := by
  refine ⟨_, _, _, swept_path .hi, rfl, ?_⟩
  decide

/-- One in English is delivered as the registry has it. -/
theorem english_reminder_sendable : ∃ (w : World InMemoryConversations) (deeds : List Deed)
    (s : World InMemoryConversations × Record), Path (Serves registered "cv_c") (w, []) deeds s ∧
      deliveries s.2 ≠ [] ∧ ∀ r demo createdAt,
        ScheduledReminder.message r demo (reminderVariables registered r demo) createdAt ∈
          deliveries s.2 → r.Sendable registered demo := by
  have hhonoured : deliveries (swept .en).2.2 ≠ [] ∧
      ∀ m ∈ deliveries (swept .en).2.2, m.Honours registered := by decide
  exact ⟨_, _, _, swept_path .en, hhonoured.1,
    (templates_honoured_iff (by decide) (by decide) (swept_path .en)).mp hhonoured.2⟩

end NxTutors.DemoAgent
