import Mathlib.Data.List.Forall2
import SceneFactory.Proofs.Construction.Create
import SceneFactory.Proofs.Contexts.Grounded

/-!
# Templates that follow a recipe

A template may do anything with the host's state as it constructs. Most do not: what comes of
them depends on what names mean in the context of the construction, and on nothing else. Such a
template follows a recipe (`Host.Follows`), and the instance that a construction places is the
recipe's product (`World.construct_of_recipe`).

Main statement: in a batch each instance is the product of its own value, whatever has become of
the others (`Workshop.constructEach_of_recipe`).
-/

set_option autoImplicit false

namespace SceneFactory

variable {H : Host}

/-! ## Recipes -/

/-- How to make an object, given what names mean. -/
structure Recipe where
  /-- Begins an object, unless there is none. -/
  begin? : (String → Option Value) → Option SceneObject
  /-- Completes an object once its attributes are written, or says why it cannot. -/
  finish : (String → Option Value) → SceneObject → Except String SceneObject

/-- What a recipe makes with some direct attributes, if it can be attached. -/
def Recipe.product? (recipe : Recipe) (lookup : String → Option Value) (direct : Attributes) :
    Option SceneObject :=
  (recipe.begin? lookup).bind fun o =>
    (recipe.finish lookup (o.writeAttributes direct)).toOption.filter SceneObject.isVisual

/-- A template follows a recipe in all states of a kind, which it does not leave. -/
structure Host.Follows (H : Host) (template : H.Template) (recipe : Recipe)
    (steady : H.State → Prop) : Prop where
  construct : ∀ around state, steady state →
    (H.construct template around state).1 = recipe.begin? around.lookup ∧
      steady (H.construct template around state).2
  complete : ∀ around o state, steady state →
    (H.complete template around o state).1 = recipe.finish around.lookup o ∧
      steady (H.complete template around o state).2

/-! ## Places -/

/-- An instance in its place: attached to the container, if that lives. -/
def Scene.seated {ε : Type} (scene : Scene ε) (c : ContainerId) (inst : Instance) : Instance :=
  match (scene.container? c).map Container.name with
  | some name => inst.attachedTo c name
  | none => inst

/-- Of the container its name alone makes a difference to the place. -/
theorem Scene.seated_congr {ε : Type} {scene scene' : Scene ε} {c : ContainerId}
    (h : (scene'.container? c).map Container.name = (scene.container? c).map Container.name)
    (inst : Instance) : scene'.seated c inst = scene.seated c inst := by
  rw [seated, seated, h]

theorem Scene.instance?_place_self {ε : Type} (scene : Scene ε) (uri : String) (o : SceneObject)
    (k : ContextId) (c : ContainerId) :
    ((scene.addInstance uri o k).2.attach scene.instances.next c).instance?
      scene.instances.next = some (scene.seated c (.new uri o k)) := by
  have hself : (scene.addInstance uri o k).2.instance? scene.instances.next =
      some (.new uri o k) := scene.instance?_addInstance_self uri o k
  rw [seated, show scene.container? c = (scene.addInstance uri o k).2.container? c from rfl]
  cases hc : (scene.addInstance uri o k).2.container? c with
  | none =>
    rw [attach_of_dead _ _ c hc]
    exact hself
  | some place =>
    rw [instance?_attach _ _ c hc, if_pos rfl, hself]
    rfl

/-! ## One construction -/

namespace World

variable (w : World H) (handle : TemplateHandle H.Template) (container : ContainerId)
  (rootContext : ContextId) (contextual direct : Attributes)

/-- The product of the recipe is what is placed. -/
theorem construct_of_recipe {recipe : Recipe} {steady : H.State → Prop}
    (hfollows : H.Follows handle.template recipe steady) (hsteady : steady w.state) :
    let lookup := (w.enter container rootContext contextual).surroundings.lookup
    let result := w.construct handle container rootContext contextual direct
    steady result.2.state ∧
      match recipe.product? lookup direct with
      | none => ∃ e, result.1 = .error e
      | some o => result.1 = .ok w.scene.instances.next ∧ result.2.scene =
          (w.scene.addInstance handle.uri o (w.contexts.newest + 1)).2.attach
            w.scene.instances.next container := by
  intro lookup result
  have hk : (w.enter container rootContext contextual).contexts.newest = w.contexts.newest + 1 :=
    w.newest_enter container rootContext contextual
  have hbegin := hfollows.construct (w.enter container rootContext contextual).surroundings
    w.state hsteady
  have hstate : (w.enter container rootContext contextual).state = w.state := rfl
  rw [Recipe.product?]
  simp only [result, construct, hstate]
  cases hc : H.construct handle.template
      (w.enter container rootContext contextual).surroundings w.state with
  | mk o? state =>
    rw [hc] at hbegin
    obtain ⟨hbegin, hsteady'⟩ := hbegin
    rw [← show o? = _ from hbegin]
    cases o? with
    | none => exact ⟨hsteady', _, rfl⟩
    | some o =>
      have hfinish := hfollows.complete (w.enter container rootContext contextual).surroundings
        (o.writeAttributes direct) state hsteady'
      dsimp only [Option.bind_some]
      cases hm : H.complete handle.template
          (w.enter container rootContext contextual).surroundings (o.writeAttributes direct)
          state with
      | mk completed state' =>
        rw [hm] at hfinish
        obtain ⟨hfinish, hsteady''⟩ := hfinish
        rw [← show completed = _ from hfinish]
        cases completed with
        | error detail => exact ⟨hsteady'', _, rfl⟩
        | ok o' =>
          dsimp only [place, withState, Except.toOption]
          rw [hk]
          by_cases hv : o'.isVisual = true
          · rw [if_pos hv, Option.filter_some, if_pos hv]
            exact ⟨hsteady'', rfl, rfl⟩
          · rw [if_neg hv, Option.filter_some, if_neg hv]
            exact ⟨hsteady'', _, rfl⟩

/-! ### What a construction leaves alone -/

/-- Of the containers a construction changes at most a list of children. -/
theorem bind_container?_construct {β : Type} {f : Container H.Engine → Option β}
    (hf : ∀ (place : Container H.Engine) children,
      f ⟨place.name, place.context?, place.engine?, children, place.isLive⟩ = f place)
    (c : ContainerId) :
    ((w.construct handle container rootContext contextual direct).2.scene.container? c).bind f =
      (w.scene.container? c).bind f := by
  obtain ⟨-, ⟨e, lost, -, -, hs⟩ | ⟨o, -, -, hs⟩ | ⟨o, -, -, hs⟩⟩ :=
    w.construct_cases handle container rootContext contextual direct
  · rw [hs]
    rfl
  · rw [hs, Scene.container?_release]
    rfl
  · rw [hs]
    change (((w.scene.addInstance handle.uri o _).2.attach _ container).container? c).bind f =
      ((w.scene.addInstance handle.uri o (w.contexts.newest + 1)).2.container? c).bind f
    cases hplace : (w.scene.addInstance handle.uri o (w.contexts.newest + 1)).2.container?
        container with
    | none => rw [Scene.attach_of_dead _ _ container hplace]
    | some place =>
      rw [Scene.container?_attach _ _ container hplace]
      by_cases hc : container = c
      · rw [if_pos hc, ← hc, hplace]
        exact hf place _
      · rw [if_neg hc]

theorem instance?_construct_of_le {i : InstanceId} (hi : i ≤ w.scene.instances.size) :
    (w.construct handle container rootContext contextual direct).2.scene.instance? i =
      w.scene.instance? i := by
  have hne : i ≠ w.scene.instances.next := Nat.ne_of_lt (Nat.lt_succ_of_le hi)
  obtain ⟨-, ⟨e, lost, -, -, hs⟩ | ⟨o, -, -, hs⟩ | ⟨o, -, -, hs⟩⟩ :=
    w.construct_cases handle container rootContext contextual direct
  · rw [hs]
    rfl
  · rw [hs]
    exact w.scene.instance?_reject_of_ne handle.uri o _ hne
  · rw [hs]
    exact w.scene.instance?_place_of_ne handle.uri o _ container hne

/-- The place of instances in a container is not changed by a construction. -/
theorem seated_construct (inst : Instance) :
    (w.construct handle container rootContext contextual direct).2.scene.seated container inst =
      w.scene.seated container inst := by
  apply Scene.seated_congr
  rw [Option.map_eq_bind, Option.map_eq_bind]
  exact w.bind_container?_construct handle container rootContext contextual direct
    (fun _ _ => rfl) container

/-- Where a name leads in a container is not changed by a construction. -/
theorem meaning_construct
    (houter : w.outerContext container rootContext ≤ w.contexts.newest) :
    let next := (w.construct handle container rootContext contextual direct).2
    next.outerContext container rootContext = w.outerContext container rootContext ∧
      next.meaning container rootContext .empty = w.meaning container rootContext .empty ∧
      next.outerContext container rootContext ≤ next.contexts.newest := by
  intro next
  obtain ⟨hcontexts, -⟩ := w.construct_cases handle container rootContext contextual direct
  have hsame : next.outerContext container rootContext = w.outerContext container rootContext :=
    congrArg (Option.getD · rootContext)
      (w.bind_container?_construct handle container rootContext contextual direct
        (fun _ _ => rfl) container)
  refine ⟨hsame, ?_, ?_⟩
  · funext name
    rw [meaning, meaning, hsame, show next.contexts = _ from hcontexts]
    exact congrArg _ (w.property?_enter_of_le container rootContext contextual houter name)
  · rw [hsame, show next.contexts = _ from hcontexts, newest_enter]
    exact Nat.le_succ_of_le houter

end World

/-! ## A batch -/

namespace Workshop

variable (shop : Workshop H) (handle : TemplateHandle H.Template) (container : ContainerId)
  (key : String) (base : Attributes) (ownership : Ownership)

/-- Instances that are there before a batch are as they were after it. -/
theorem instance?_constructEach {i : InstanceId} {inst : Instance}
    (hi : shop.world.scene.instance? i = some inst) (values : List Value) :
    (constructEach handle container key base ownership values shop).2.world.scene.instance? i =
      some inst := by
  refine constructEach_induction (P := fun next => next.world.scene.instance? i = some inst) ?_
    values hi
  intro next direct h
  rw [world_construct]
  exact (next.world.instance?_construct_of_le _ _ _ _ _
    (next.world.scene.le_size_of_instance? h)).trans h

/-- What a construction finds, the next one finds, and the recipe says what comes of it. -/
theorem construct_of_recipe {recipe : Recipe} {steady : H.State → Prop}
    (hfollows : H.Follows handle.template recipe steady) (hsteady : steady shop.world.state)
    (houter : shop.world.outerContext container shop.factory.rootContext ≤
      shop.world.contexts.newest) (direct : Attributes) :
    let (result, next) := shop.construct handle container .empty direct ownership
    let lookup := shop.world.meaning container shop.factory.rootContext .empty
    (steady next.world.state ∧
        next.world.outerContext container next.factory.rootContext ≤
          next.world.contexts.newest ∧
        next.world.meaning container next.factory.rootContext .empty = lookup ∧
        ∀ inst, next.world.scene.seated container inst = shop.world.scene.seated container inst) ∧
      match recipe.product? lookup direct with
      | none => ∃ e, result = .error e
      | some o => ∃ i, result = .ok i ∧ ∃ k, next.world.scene.instance? i =
          some (shop.world.scene.seated container (.new handle.uri o k)) := by
  have hroot := (shop.keeps_construct handle container .empty direct ownership).rootContext
  have hworld := shop.world_construct handle container .empty direct ownership
  have hanswer := shop.answer_construct handle container .empty direct ownership
  obtain ⟨hsteady', hproduct⟩ := shop.world.construct_of_recipe handle container
    shop.factory.rootContext .empty direct hfollows hsteady
  obtain ⟨-, hmeaning, houter'⟩ :=
    shop.world.meaning_construct handle container shop.factory.rootContext .empty direct houter
  have hseated := shop.world.seated_construct handle container shop.factory.rootContext .empty
    direct
  rw [← hanswer, World.lookup_surroundings_enter] at hproduct
  rw [← hworld] at hsteady' hmeaning houter' hseated hproduct
  cases hc : shop.construct handle container .empty direct ownership with
  | mk result next =>
    rw [hc] at hroot hsteady' hmeaning houter' hseated hproduct
    dsimp only at hroot hsteady' hmeaning houter' hseated hproduct ⊢
    rw [hroot]
    refine ⟨⟨hsteady', houter', hmeaning, hseated⟩, ?_⟩
    cases hmade : recipe.product?
        (shop.world.meaning container shop.factory.rootContext .empty) direct with
    | none =>
      rw [hmade] at hproduct
      exact hproduct
    | some o =>
      rw [hmade] at hproduct
      obtain ⟨hok, hscene⟩ := hproduct
      refine ⟨_, hok, shop.world.contexts.newest + 1, ?_⟩
      rw [hscene]
      exact shop.world.scene.instance?_place_self handle.uri o _ container

/-- Each value of a batch has the product of its own: the instances that come of a batch
are, in order, those that the recipe makes of the values one by one. -/
theorem constructEach_of_recipe {recipe : Recipe} {steady : H.State → Prop}
    (hfollows : H.Follows handle.template recipe steady) (hsteady : steady shop.world.state)
    (houter : shop.world.outerContext container shop.factory.rootContext ≤
      shop.world.contexts.newest) (values : List Value) :
    let lookup := shop.world.meaning container shop.factory.rootContext .empty
    let made := constructEach handle container key base ownership values shop
    List.Forall₂
      (fun i o => ∃ k, made.2.world.scene.instance? i =
        some (shop.world.scene.seated container (.new handle.uri o k)))
      made.1 (values.filterMap fun value => recipe.product? lookup (base.merged key value)) := by
  induction values generalizing shop with
  | nil => exact .nil
  | cons value rest ih =>
    intro lookup made
    have hfirst := shop.construct_of_recipe handle container ownership hfollows hsteady houter
      (base.merged key value)
    simp only [made, lookup]
    rw [constructEach, List.filterMap_cons]
    cases hc : shop.construct handle container .empty (base.merged key value) ownership with
    | mk result next =>
      rw [hc] at hfirst
      obtain ⟨⟨hsteady', houter', hmeaning, hseated⟩, hproduct⟩ := hfirst
      have hrest := ih next hsteady' houter'
      simp only [hmeaning, hseated] at hrest
      cases hmade : recipe.product?
          (shop.world.meaning container shop.factory.rootContext .empty)
          (base.merged key value) with
      | none =>
        rw [hmade] at hproduct
        obtain ⟨e, rfl⟩ := hproduct
        exact hrest
      | some o =>
        rw [hmade] at hproduct
        obtain ⟨i, rfl, k, hi⟩ := hproduct
        exact .cons ⟨k, next.instance?_constructEach handle container key base ownership hi rest⟩
          hrest

end Workshop

end SceneFactory
