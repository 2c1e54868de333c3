import Mathlib.Data.List.Induction
import SceneFactory.Proofs.Release.Accounts

/-!
# Every operation keeps the accounts

A session is accounted for by a trace if its factory's tracker and its scene agree with
the ledger of the trace (`Session.IsAccounted`). Each operation of a factory carries the
agreement on to the ledger with one more event (`Session.agrees_carryOut`), and what is
let go at the end of an operation is nothing that the tracker needs
(`Session.agrees_settle`). So a run is accounted for by its own trace
(`Session.isAccounted_after`).
-/

set_option autoImplicit false

namespace SceneFactory

variable {H : Host}

/-! ## Placing -/

namespace Scene

variable {ε : Type} (scene : Scene ε) (uri : String) (o : SceneObject) (k : ContextId)

theorem instance?_next : scene.instance? scene.instances.next = none :=
  (scene.instance?_eq_none_iff _).2 (Or.inr (Nat.lt_succ_self _))

theorem instance?_place_of_ne (c : ContainerId) {i : InstanceId}
    (h : i ≠ scene.instances.next) :
    ((scene.addInstance uri o k).2.attach scene.instances.next c).instance? i =
      scene.instance? i := by
  rw [← scene.instance?_addInstance_of_ne uri o k h]
  cases hc : (scene.addInstance uri o k).2.container? c with
  | none => rw [attach_of_dead _ _ c hc]
  | some container => rw [instance?_attach _ _ c hc, if_neg (Ne.symm h)]

/-- An instance that was just placed is whole, whether or not the container lives. -/
theorem isWhole_place (c : ContainerId) :
    ((scene.addInstance uri o k).2.attach scene.instances.next c).IsWhole
      scene.instances.next := by
  have hself := scene.instance?_addInstance_self uri o k
  change (scene.addInstance uri o k).2.instance? scene.instances.next = _ at hself
  cases hc : (scene.addInstance uri o k).2.container? c with
  | none =>
    rw [attach_of_dead _ _ c hc]
    refine ⟨_, hself, ?_, rfl, rfl⟩
    intro hs
    cases hs
  | some container =>
    refine ⟨(Instance.new uri o k).attachedTo c container.name, ?_, ?_, rfl, rfl⟩
    · rw [instance?_attach _ _ c hc, if_pos rfl, hself]
      rfl
    · intro hs
      cases hs

theorem instance?_reject_of_ne {i : InstanceId} (h : i ≠ scene.instances.next) :
    ((scene.addInstance uri o k).2.release scene.instances.next).2.instance? i =
      scene.instance? i := by
  rw [instance?_release, if_neg (Ne.symm h)]
  exact scene.instance?_addInstance_of_ne uri o k h

theorem state?_reject :
    ((scene.addInstance uri o k).2.release scene.instances.next).2.state?
      scene.instances.next = some .destroyed := by
  have hself := scene.instance?_addInstance_self uri o k
  change (scene.addInstance uri o k).2.instance? scene.instances.next = _ at hself
  rw [state?, instance?_release, if_pos rfl, hself]
  rfl

end Scene

/-! ## Factories -/

namespace Ledger

variable (l : Ledger)

@[simp] theorem handOut_nil (ownership : Ownership) : l.handOut ownership [] = l := by
  apply Ledger.ext <;> funext i <;> simp [handOut]

/-- Instances may be handed out one after the other. -/
theorem handOut_append (ownership : Ownership) (ids more : List InstanceId) :
    (l.handOut ownership ids).handOut ownership more = l.handOut ownership (ids ++ more) := by
  apply Ledger.ext
  · funext i
    simp [handOut, or_assoc, and_or_left]
  · funext i
    simp [handOut, or_assoc, and_or_left]
  · rfl
  · rfl

namespace Agrees

variable {l} {shop : Workshop H} (h : l.Agrees shop.factory.tracker shop.world.scene)

include h

/-- What a construction hands out, if anything, agrees with the ledger. -/
theorem construct (handle : TemplateHandle H.Template) (container : ContainerId)
    (contextual direct : Attributes) (ownership : Ownership) :
    let result := shop.construct handle container contextual direct ownership
    (l.handOut ownership result.1.toOption.toList).Agrees result.2.factory.tracker
      result.2.world.scene := by
  intro result
  have hnew := shop.world.scene.instance?_next
  obtain ⟨-, hcases⟩ := shop.world.construct_cases handle container
    shop.factory.rootContext contextual direct
  revert hcases
  simp only [result, Workshop.construct]
  generalize hw : shop.world.construct handle container shop.factory.rootContext contextual
    direct = worked
  obtain ⟨made, world⟩ := worked
  rintro (⟨e, lost, rfl, -, hs⟩ | ⟨o, -, rfl, hs⟩ | ⟨o, -, rfl, hs⟩)
  · change (l.handOut ownership []).Agrees shop.factory.tracker world.scene
    rw [handOut_nil]
    have hsame : ∀ i, world.scene.instance? i = shop.world.scene.instance? i := by
      intro i
      rw [show world.scene = _ from hs, Scene.instance?_recordReleases]
    have hscene : shop.world.scene.Resembles (fun _ => True) world.scene := .of_instances hsame
    exact h.of_resembles hscene fun _ _ => trivial
  · change (l.handOut ownership []).Agrees shop.factory.tracker world.scene
    rw [handOut_nil]
    refine h.reject hnew ?_ ?_
    · intro i hi
      rw [show world.scene = _ from hs]
      exact shop.world.scene.instance?_reject_of_ne handle.uri o _ hi
    · rw [show world.scene = _ from hs]
      exact shop.world.scene.state?_reject handle.uri o _
  · change (l.handOut ownership [shop.world.scene.instances.next]).Agrees
      (shop.factory.adopt shop.world.scene.instances.next ownership).tracker world.scene
    refine h.handOut hnew ?_ ?_ ownership ?_
    · intro i hi
      rw [show world.scene = _ from hs]
      exact shop.world.scene.instance?_place_of_ne handle.uri o _ container hi
    · rw [show world.scene = _ from hs]
      exact shop.world.scene.isWhole_place handle.uri o _ container
    · cases ownership <;> rfl

theorem constructEach (handle : TemplateHandle H.Template) (container : ContainerId)
    (key : String) (base : Attributes) (ownership : Ownership) (values : List Value) :
    let result := Workshop.constructEach handle container key base ownership values shop
    (l.handOut ownership result.1).Agrees result.2.factory.tracker result.2.world.scene := by
  induction values generalizing shop l with
  | nil =>
    change (l.handOut ownership []).Agrees _ _
    rw [handOut_nil]
    exact h
  | cons value rest ih =>
    have hfirst := h.construct handle container .empty (base.merged key value) ownership
    intro result
    simp only [result, Workshop.constructEach]
    generalize shop.construct handle container .empty (base.merged key value) ownership =
      made at hfirst
    obtain ⟨made, next⟩ := made
    cases made with
    | error e =>
      change (l.handOut ownership []).Agrees _ _ at hfirst
      rw [handOut_nil] at hfirst
      exact ih hfirst
    | ok i =>
      have hrest := ih hfirst
      dsimp only at hrest
      rw [handOut_append] at hrest
      exact hrest

/-- Obtaining a template concerns neither the tracker nor the scene. -/
theorem readyTemplate (container? : Option ContainerId) (identifier : String) :
    l.Agrees (shop.readyTemplate container? identifier).2.factory.tracker
      (shop.readyTemplate container? identifier).2.world.scene := by
  obtain ⟨hs, -, ht, -⟩ := shop.readyTemplate_frame container? identifier
  rw [hs, ht]
  exact h

/-- A creation is a safe point even if it fails. -/
theorem create (container : ContainerId) (identifier : String)
    (contextual direct : Attributes) (ownership : Ownership) :
    let result := shop.create (some container) identifier contextual direct ownership
    (l.settleUp.handOut ownership result.1.toOption.toList).Agrees result.2.factory.tracker
      result.2.world.scene := by
  have hflush : l.settleUp.Agrees shop.flush.2.factory.tracker shop.flush.2.world.scene := h.flush
  have htemplate := hflush.readyTemplate (some container) identifier
  intro result
  simp only [result, Workshop.create]
  generalize shop.flush.2.readyTemplate (some container) identifier = obtained at htemplate
  obtain ⟨obtained, next⟩ := obtained
  cases obtained with
  | error e =>
    change (l.settleUp.handOut ownership []).Agrees _ _
    rw [handOut_nil]
    exact htemplate
  | ok handle => exact htemplate.construct handle container contextual direct ownership

theorem createMany (key : String) (value : Value) (rest : List Value) (container : ContainerId)
    (identifier : String) (base : Attributes) (ownership : Ownership) :
    let result := shop.createMany key (value :: rest) (some container) identifier base ownership
    (l.settleUp.handOut ownership result.1).Agrees result.2.factory.tracker
      result.2.world.scene := by
  have hflush : l.settleUp.Agrees shop.flush.2.factory.tracker shop.flush.2.world.scene := h.flush
  have htemplate := hflush.readyTemplate (some container) identifier
  intro result
  simp only [result, Workshop.createMany, List.isEmpty_cons, Bool.false_eq_true, if_false]
  generalize shop.flush.2.readyTemplate (some container) identifier = obtained at htemplate
  obtain ⟨obtained, next⟩ := obtained
  cases obtained with
  | error e =>
    change (l.settleUp.handOut ownership []).Agrees _ _
    rw [handOut_nil]
    exact htemplate
  | ok handle =>
    exact htemplate.constructEach handle container key base ownership (value :: rest)

omit h in
/-- Instances may be destroyed one after the other. -/
theorem destroyAll {t : Tracker} {scene : Scene H.Engine} (h : l.Agrees t scene)
    (ids : List InstanceId) :
    (l.unregister fun i => i ∈ ids).Agrees (Tracker.destroyAll ids t).2 scene := by
  induction ids generalizing l t with
  | nil =>
    have hnone : (l.unregister fun i => i ∈ ([] : List InstanceId)) = l := by
      apply Ledger.ext <;> funext i <;> simp [unregister]
    rw [hnone]
    exact h
  | cons j rest ih =>
    have hrest := ih (h.destroy j)
    have hboth : ((l.unregister fun i => i = j).unregister fun i => i ∈ rest) =
        l.unregister fun i => i ∈ j :: rest := by
      apply Ledger.ext
      · rfl
      · rfl
      · funext i
        simp [unregister, or_assoc, and_or_left]
      · rfl
    rw [hboth] at hrest
    exact hrest

/-- Teardown unregisters everything and is a safe point. -/
theorem teardown : (l.unregister fun _ => True).settleUp.Agrees shop.teardown.factory.tracker
    shop.teardown.world.scene :=
  h.destroyEverything.flush

end Agrees

end Ledger

/-! ## Sessions -/

/-- Whether an operation releases what the host itself tracks. -/
def Operation.isOwnFlush : Operation H → Bool
  | .flushOwn _ => true
  | _ => false

namespace Session

variable (s : Session H)

/-- The tracker of the factory, which is empty after the factory was dropped. -/
def registry : Tracker := s.factory?.elim .empty fun factory => factory.tracker

theorem registry_of_some {factory : Factory H} (h : s.factory? = some factory) :
    s.registry = factory.tracker := by
  rw [registry, h]
  rfl

theorem registry_of_none (h : s.factory? = none) : s.registry = .empty := by
  rw [registry, h]
  rfl

/-- The session is as a trace says. -/
def IsAccounted (trace : List (Event H)) : Prop :=
  (Ledger.ofTrace trace).Agrees s.registry s.world.scene

variable {s} {l : Ledger}

/-- An operation that finds no factory changes nothing, and nothing is left to be
unregistered or to become due. -/
theorem record_of_dropped (h : l.Agrees s.registry s.world.scene) (hdropped : s.factory? = none)
    {e : Event H} (hc : ∀ ownership i, Event.creates ownership i e = false) :
    l.record e = l := by
  rw [s.registry_of_none hdropped] at h
  -- an empty tracker means that all that was tracked is due
  have hdue : ∀ {i : InstanceId}, l.tracked i → l.due i := by
    intro i ht
    by_contra hd
    by_cases hu : l.unregistered i
    · exact absurd (h.mem_pending.2 ⟨hu, hd⟩) List.not_mem_nil
    · exact absurd (h.mem_live.2 ⟨ht, hu⟩) List.not_mem_nil
  apply Ledger.ext
  · funext i
    simp [Ledger.record, hc]
  · funext i
    simp [Ledger.record, hc]
  · funext i
    apply propext
    constructor
    · rintro (hu | ⟨ht, -⟩)
      · exact hu
      · exact h.unregistered_of_due (hdue ht)
    · exact Or.inl
  · funext i
    apply propext
    constructor
    · rintro (hd | ⟨hu | ⟨ht, -⟩, -⟩)
      · exact hd
      · exact hdue (h.tracked_of_unregistered hu)
      · exact hdue ht
    · exact Or.inl

/-- What holds of a factory at work holds of its session. -/
theorem agrees_atWork (h : l.Agrees s.registry s.world.scene) (op : Operation H)
    (work : Workshop H → Outcome H × Workshop H)
    (hwork : ∀ shop : Workshop H, l.Agrees shop.factory.tracker shop.world.scene →
      (l.record (op, (work shop).1)).Agrees (work shop).2.factory.tracker
        (work shop).2.world.scene) :
    (l.record (op, (s.atWork work).1)).Agrees (s.atWork work).2.registry
      (s.atWork work).2.world.scene := by
  rw [atWork]
  cases hf : s.factory? with
  | none =>
    rw [record_of_dropped h hf]
    · exact h
    · intro ownership i
      cases op <;> rfl
  | some factory =>
    rw [s.registry_of_some hf] at h
    exact hwork ⟨factory, s.world⟩ h

/-- What a factory does without handing out or unregistering anything, and without
releasing anything, leaves the ledger as it is. -/
theorem agrees_atWork_quiet (h : l.Agrees s.registry s.world.scene) {op : Operation H}
    {work : Workshop H → Outcome H × Workshop H}
    (hc : ∀ shop ownership i, Event.creates ownership i (op, (work shop).1) = false)
    (hu : ∀ i, op.unregisters i = false) (hs : op.isSafePoint = false)
    (hwork : ∀ shop : Workshop H, l.Agrees shop.factory.tracker shop.world.scene →
      l.Agrees (work shop).2.factory.tracker (work shop).2.world.scene) :
    (l.record (op, (s.atWork work).1)).Agrees (s.atWork work).2.registry
      (s.atWork work).2.world.scene := by
  apply agrees_atWork h
  intro shop hshop
  rw [l.record_of_quiet (hc shop) hu hs]
  exact hwork shop hshop

/-- An operation that is no concern of the tracker changes the scene at most by detaching
an instance. -/
theorem agrees_quiet (h : l.Agrees s.registry s.world.scene) {s' : Session H} {e : Event H}
    (hregistry : s'.registry = s.registry)
    (hscene : s.world.scene.Resembles (fun _ => True) s'.world.scene)
    (hc : ∀ ownership i, Event.creates ownership i e = false)
    (hu : ∀ i, e.1.unregisters i = false) (hs : e.1.isSafePoint = false) :
    (l.record e).Agrees s'.registry s'.world.scene := by
  rw [l.record_of_quiet hc hu hs, hregistry]
  exact h.of_resembles hscene fun _ _ => trivial

end Session

namespace Ledger

variable (l : Ledger)

/-! ### The events that matter -/

theorem record_create (container : ContainerId) (identifier : String)
    (contextual direct : Attributes) (ownership : Ownership)
    (made : Except FactoryError InstanceId) :
    l.record (H := H) (.create (some container) identifier contextual direct ownership,
      .created made) = l.settleUp.handOut ownership made.toOption.toList := by
  cases made with
  | error e =>
    apply Ledger.ext <;> funext i <;>
      simp [record, Event.creates, unregister, Operation.unregisters, Operation.isSafePoint,
        settleUp, Except.toOption]
  | ok j =>
    apply Ledger.ext <;> funext i <;>
      simp [record, Event.creates, unregister, Operation.unregisters, Operation.isSafePoint,
        settleUp, handOut, Except.toOption]

theorem record_createMany (key : String) (value : Value) (rest : List Value)
    (container : ContainerId) (identifier : String) (base : Attributes) (ownership : Ownership)
    (ids : List InstanceId) :
    l.record (H := H) (.createMany key (value :: rest) (some container) identifier base
      ownership, .createdMany ids) = l.settleUp.handOut ownership ids := by
  apply Ledger.ext <;> funext i <;>
    simp [record, Event.creates, unregister, Operation.unregisters, Operation.isSafePoint,
      settleUp, handOut]

theorem record_flush (busy : List ContainerId) (outcome : Outcome H) :
    l.record (.flush busy, outcome) = l.settleUp := by
  apply Ledger.ext <;> funext i <;>
    simp [record, Event.creates, unregister, Operation.unregisters, Operation.isSafePoint,
      settleUp]

theorem record_destroy (j : InstanceId) (outcome : Outcome H) :
    l.record (.destroy j, outcome) = l.unregister fun i => i = j := by
  apply Ledger.ext <;> funext i <;>
    simp [record, Event.creates, unregister, Operation.unregisters, Operation.isSafePoint,
      eq_comm]

theorem record_destroyAll (ids : List InstanceId) (outcome : Outcome H) :
    l.record (.destroyAll ids, outcome) = l.unregister fun i => i ∈ ids := by
  apply Ledger.ext <;> funext i <;>
    simp [record, Event.creates, unregister, Operation.unregisters, Operation.isSafePoint]

/-- Teardown and dropping the factory are told apart by nothing in the ledger. -/
theorem record_teardown {op : Operation H} (hop : op = .teardown ∨ op = .dropFactory)
    (outcome : Outcome H) :
    l.record (op, outcome) = (l.unregister fun _ => True).settleUp := by
  rcases hop with rfl | rfl <;>
    apply Ledger.ext <;> funext i <;>
    simp [record, Event.creates, unregister, Operation.unregisters, Operation.isSafePoint,
      settleUp]

end Ledger

/-! ### Every operation -/

namespace Session

variable {s : Session H} {l : Ledger}

/-- An operation carries the agreement on to the ledger with its event. -/
theorem agrees_carryOut (h : l.Agrees s.registry s.world.scene) {op : Operation H}
    (hop : op.isOwnFlush = false) :
    (l.record (op, (s.carryOut op).1)).Agrees (s.carryOut op).2.registry
      (s.carryOut op).2.world.scene := by
  cases op with
  | create container? identifier contextual direct ownership =>
    obtain ⟨ids, heq⟩ := s.carryOut_create container? identifier contextual direct ownership
    rw [heq]
    cases container? with
    | none =>
      exact agrees_atWork_quiet h (fun _ _ _ => rfl) (fun _ => rfl) rfl fun _ hshop => hshop
    | some container =>
      apply agrees_atWork h
      intro shop hshop
      have hcreate := hshop.create container identifier contextual direct ownership
      dsimp only at hcreate
      rw [← l.record_create container identifier contextual direct ownership] at hcreate
      exact hcreate
  | createMany key values container? identifier base ownership =>
    obtain ⟨ids, heq⟩ :=
      s.carryOut_createMany key values container? identifier base ownership
    rw [heq]
    cases container? with
    | none =>
      apply agrees_atWork_quiet h ?_ (fun _ => rfl) ?_ fun _ hshop => hshop
      · intro shop o i
        simp [Event.creates, Workshop.createMany, Prod.map]
      · cases values <;> rfl
    | some container =>
      cases values with
      | nil =>
        apply agrees_atWork_quiet h ?_ (fun _ => rfl) rfl fun _ hshop => hshop
        intro shop o i
        simp [Event.creates, Workshop.createMany, Prod.map]
      | cons value rest =>
        apply agrees_atWork h
        intro shop hshop
        have hcreate := hshop.createMany key value rest container identifier base ownership
        dsimp only at hcreate
        rw [← l.record_createMany key value rest container identifier base ownership] at hcreate
        exact hcreate
  | destroy i =>
    apply agrees_atWork h
    intro shop hshop
    rw [l.record_destroy]
    exact hshop.destroy i
  | destroyAll ids =>
    apply agrees_atWork h
    intro shop hshop
    rw [l.record_destroyAll]
    exact hshop.destroyAll ids
  | flush busy =>
    apply agrees_atWork h
    intro shop hshop
    rw [l.record_flush]
    exact hshop.flush
  | teardown =>
    apply agrees_atWork h
    intro shop hshop
    rw [l.record_teardown (Or.inl rfl)]
    exact hshop.teardown
  | dropFactory =>
    rw [carryOut, dropFactory]
    cases hf : s.factory? with
    | none =>
      rw [record_of_dropped h hf fun _ _ => rfl]
      exact h
    | some factory =>
      rw [l.record_teardown (Or.inr rfl)]
      rw [s.registry_of_some hf] at h
      have hshop : l.Agrees (Workshop.mk factory s.world).factory.tracker s.world.scene := h
      exact hshop.teardown.of_tracker (fun _ => Iff.rfl) rfl
  | bind engine =>
    exact agrees_atWork_quiet h (fun _ _ _ => rfl) (fun _ => rfl) rfl fun _ hshop => hshop
  | template identifier =>
    exact agrees_atWork_quiet h (fun _ _ _ => rfl) (fun _ => rfl) rfl fun _ hshop => hshop
  | readyTemplate container? identifier =>
    exact agrees_atWork_quiet h (fun _ _ _ => rfl) (fun _ => rfl) rfl fun _ hshop =>
      hshop.readyTemplate container? identifier
  | setRootContext name value =>
    exact agrees_atWork_quiet h (fun _ _ _ => rfl) (fun _ => rfl) rfl fun _ hshop => hshop
  | detach i access =>
    exact agrees_quiet h rfl (s.world.scene.resembles_detach _ i access) (fun _ _ => rfl)
      (fun _ => rfl) rfl
  | holdContext i =>
    obtain ⟨hregistry, hworld⟩ : (s.carryOut (.holdContext i)).2.registry = s.registry ∧
        (s.carryOut (.holdContext i)).2.world = s.world := by
      simp only [carryOut]
      split <;> exact ⟨rfl, rfl⟩
    apply agrees_quiet h hregistry ?_ (fun _ _ => rfl) (fun _ => rfl) rfl
    apply Scene.Resembles.of_instances
    intro j
    rw [hworld]
  | flushOwn => cases hop
  | _ =>
    exact agrees_quiet h rfl (.of_instances fun _ => rfl) (fun _ _ => rfl) (fun _ => rfl) rfl

/-- What is let go at the end of an operation is nothing that the tracker needs. -/
theorem agrees_settle (h : l.Agrees s.registry s.world.scene) :
    l.Agrees s.settle.registry s.settle.world.scene := by
  let needed := fun i => i ∈ s.registry.live ∨ i ∈ s.registry.pending
  have hscene : s.world.scene.Resembles needed s.settle.world.scene := by
    apply s.world.scene.resembles_foldl_forget
    intro i hi hneeded
    apply (mem_unheld hi).1
    have hneeded : i ∈ s.registry.live ∨ i ∈ s.registry.pending := hneeded
    rw [instanceReferences]
    cases hf : s.factory? with
    | none =>
      rw [s.registry_of_none hf] at hneeded
      rcases hneeded with hmem | hmem <;> cases hmem
    | some factory =>
      rw [s.registry_of_some hf] at hneeded
      exact List.mem_append_right _ (List.mem_append.2 hneeded)
  apply h.of_resembles hscene
  intro i ht hd
  by_cases hu : l.unregistered i
  · exact Or.inr (h.mem_pending.2 ⟨hu, hd⟩)
  · exact Or.inl (h.mem_live.2 ⟨ht, hu⟩)

/-- A step of a run is accounted for by one more event. -/
theorem IsAccounted.perform {trace : List (Event H)} (h : s.IsAccounted trace)
    {op : Operation H} (hop : op.isOwnFlush = false) :
    (s.perform op).2.IsAccounted (trace ++ [(op, (s.perform op).1)]) := by
  rw [IsAccounted, Ledger.ofTrace_concat]
  exact agrees_settle (agrees_carryOut h hop)

theorem isAccounted_start (config : Config) (state : H.State) :
    (start config state).IsAccounted [] := Ledger.agrees_empty

/-- A run is accounted for by its trace. -/
theorem isAccounted_after (config : Config) (state : H.State) {ops : List (Operation H)}
    (hown : ∀ op ∈ ops, op.isOwnFlush = false) :
    ((start config state).after ops).IsAccounted ((start config state).trace ops) := by
  induction ops using List.reverseRecOn with
  | nil => exact isAccounted_start config state
  | append_singleton ops op ih =>
    rw [after_concat, trace_concat]
    apply (ih fun other hmem => hown other (List.mem_append_left _ hmem)).perform
    exact hown op (List.mem_append_right _ List.mem_cons_self)

end Session

end SceneFactory
