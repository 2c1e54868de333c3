import Mathlib
import SceneFactory.Proofs.Construction.Initial
import SceneFactory.Proofs.Construction.Lookup
import SceneFactory.Proofs.Construction.Writes
import SceneFactory.Proofs.World.Change
import SceneFactory.Studio

/-!
# What creating from a markup component comes to

The stages of a creation are put together here: initializers see the contextual
attributes and the contexts outside, direct attributes are written over the declared
properties or added behind them, required properties must not be null, and only an item
joins the container. Main statement: `Workshop.create_markup`.
-/

set_option autoImplicit false

namespace SceneFactory

/-! ## The object of a component -/

namespace Markup.Component

variable {component : Component} (lookup : String → Option Value) (direct : Attributes)

/-- The object of a component with the direct attributes written. -/
def written (component : Component) : SceneObject :=
  (component.construct lookup).writeAttributes direct

theorem isWritten_construct : (component.construct lookup).IsWritten := ⟨rfl, rfl⟩

theorem declared_construct (h : component.propertyNames.Nodup) :
    (component.construct lookup).declared.entries =
      component.properties.map fun p => (p.node.name.node, p.node.initialValue lookup) := by
  apply Assoc.entries_ofList
  rw [List.map_map]
  exact h

theorem declaredNames_construct (h : component.propertyNames.Nodup) :
    (component.construct lookup).declaredNames = component.propertyNames := by
  rw [SceneObject.declaredNames, Assoc.keys, declared_construct lookup h, List.map_map]
  rfl

/-- Declared properties have their final values, in order of declaration. -/
theorem declared_written (h : component.propertyNames.Nodup) :
    (component.written lookup direct).declared.entries =
      component.properties.map fun p =>
        (p.node.name.node, p.node.finalValue lookup direct) := by
  obtain ⟨hdeclared, -⟩ := (component.construct lookup).writeAttributes_entries
    (isWritten_construct lookup) rfl direct
  rw [written, hdeclared, declared_construct lookup h, List.map_map]
  rfl

/-- Other direct attributes come behind, in their own order. -/
theorem dynamic_written (h : component.propertyNames.Nodup) :
    (component.written lookup direct).dynamic.entries =
      direct.entries.filter fun e => e.1 ∉ component.propertyNames := by
  obtain ⟨-, hdynamic⟩ := (component.construct lookup).writeAttributes_entries
    (isWritten_construct lookup) rfl direct
  rw [written, hdynamic, declaredNames_construct lookup h]

theorem typeName_written : (component.written lookup direct).typeName = component.name.node :=
  ((component.construct lookup).writeAttributes_frame direct).1

theorem isVisual_written :
    (component.written lookup direct).isVisual = true ↔ component.kind = .item := by
  have hv := ((component.construct lookup).writeAttributes_frame direct).2
  rw [SceneObject.isVisual, written, hv]
  cases hk : component.kind <;> simp [construct, hk]

/-- A declared property of the object is unset iff its final value is null. -/
theorem isUnset_written (h : component.propertyNames.Nodup) {p : Located Property}
    (hp : p ∈ component.properties) :
    isUnset (component.written lookup direct) p.node.name.node =
      (p.node.finalValue lookup direct).isNull := by
  have hfind : (component.written lookup direct).declared.get? p.node.name.node =
      some (p.node.finalValue lookup direct) := by
    apply Assoc.find_of_mem (component.written lookup direct).declared.nodup_keys
    rw [declared_written lookup direct h]
    exact List.mem_map.2 ⟨p, hp, rfl⟩
  rw [isUnset, SceneObject.property?, hfind]
  rfl

/-- The required check finds exactly the required properties that are null in the
end. -/
theorem unset_written (h : component.propertyNames.Nodup) :
    component.unset (component.written lookup direct) = component.lacking lookup direct := by
  rw [unset, lacking, List.filter_map, List.filter_filter]
  refine congrArg _ (List.filter_congr ?_)
  intro p hp
  rw [Function.comp_apply, isUnset_written lookup direct h hp, Bool.and_comm]

/-- Completing the written object fails iff a required property is null in the end, and
names all of them. -/
theorem complete_written (h : component.propertyNames.Nodup) :
    component.complete (component.written lookup direct) =
      if component.lacking lookup direct = [] then .ok (component.written lookup direct)
      else .error ("required property not set: " ++
        ", ".intercalate (component.lacking lookup direct)) := by
  rw [complete, unset_written lookup direct h]
  cases component.lacking lookup direct with
  | nil => rfl
  | cons name names => rfl

end Markup.Component

/-! ## The construction -/

namespace World

variable {H : Host}

/-- What a name means in the context of a construction. -/
def meaning (w : World H) (container : ContainerId) (rootContext : ContextId)
    (contextual : Attributes) (name : String) : Option Value :=
  (contextual.get? name).or (w.contexts.property? (w.outerContext container rootContext) name)

/-- A template sees the contextual attributes first and the contexts outside after
them. -/
theorem lookup_surroundings_enter (w : World H) (container : ContainerId)
    (rootContext : ContextId) (contextual : Attributes) :
    (w.enter container rootContext contextual).surroundings.lookup =
      w.meaning container rootContext contextual := by
  funext name
  have henter := w.contexts.property?_enter (w.outerContext container rootContext) contextual name
  rw [← w.contexts.newest_add (some (w.outerContext container rootContext))] at henter
  simp only [surroundings]
  rw [newest_enter, ← w.contexts.newest_add (some (w.outerContext container rootContext))]
  exact henter

variable {w : World studio} {handle : TemplateHandle studio.Template} {template : Nat}
  {component : Markup.Component}

/-- A construction from a markup component that is ready. -/
theorem construct_markup (ht : handle.template = Studio.TemplateRef.markup template)
    (hcomponent : w.state.markup.component? template = some component)
    (container : ContainerId) (rootContext : ContextId) (contextual direct : Attributes) :
    let lookup := w.meaning container rootContext contextual
    let inside := w.enter container rootContext contextual
    w.construct handle container rootContext contextual direct =
      match component.complete (component.written lookup direct) with
      | .error detail => (.error (.completionFailed handle.uri detail),
          inside.withScene (w.scene.recordReleases
            [.object inside.contexts.newest, .context inside.contexts.newest]))
      | .ok o => inside.place handle.uri o container := by
  intro lookup inside
  have hlookup : inside.surroundings.lookup = lookup :=
    w.lookup_surroundings_enter container rootContext contextual
  have hbegin : studio.construct handle.template inside.surroundings inside.state =
      (some (component.construct lookup), inside.state) := by
    rw [ht, ← hlookup]
    change ((w.state.markup.construct? template inside.surroundings.lookup, _) :
      Option SceneObject × Studio.State) = _
    rw [Markup.Engine.construct?, hcomponent]
    rfl
  have hcomplete : ∀ o, studio.complete handle.template inside.surroundings o inside.state =
      (component.complete o, inside.state) := by
    intro o
    rw [ht]
    change ((w.state.markup.complete template o, _) : Except String SceneObject × Studio.State) = _
    rw [Markup.Engine.complete, hcomponent]
    rfl
  simp only [construct]
  rw [hbegin]
  dsimp only
  rw [hcomplete]
  have hwritten : (component.construct lookup).writeAttributes direct =
      component.written lookup direct := rfl
  rw [hwritten]
  cases component.complete (component.written lookup direct) <;> rfl

/-! ### Placing -/

section Place

variable {H : Host} (w : World H) (uri : String) {o : SceneObject} (c : ContainerId)

theorem place_of_not_visual (hv : ¬o.isVisual = true) :
    (w.place uri o c).1 = .error (.incompatibleType uri o.typeName) := by
  simp only [place]
  rw [if_neg hv]

/-- A visual object becomes an attached instance with all its properties. -/
theorem place_of_visual (hv : o.isVisual = true) {container : Container H.Engine}
    (hc : w.scene.container? c = some container) :
    ∃ i inst, (w.place uri o c).1 = .ok i ∧
      (w.place uri o c).2.scene.instance? i = some inst ∧ inst.state = .attached ∧
      inst.parent? = some c ∧ i ∈ (w.place uri o c).2.scene.children c ∧
      inst.typeName? = some o.typeName ∧ inst.properties = o.properties := by
  let added := w.scene.addInstance uri o w.contexts.newest
  have hplace : w.place uri o c = (.ok added.1, w.withScene (added.2.attach added.1 c)) := by
    simp only [place]
    rw [if_pos hv]
  have hself := w.scene.instance?_addInstance_self uri o w.contexts.newest
  have hlive : added.2.container? c = some container := hc
  refine ⟨added.1, (Instance.new uri o w.contexts.newest).attachedTo c container.name, ?_⟩
  rw [hplace]
  refine ⟨rfl, ?_, rfl, rfl, ?_, ?_, ?_⟩
  · change (added.2.attach added.1 c).instance? added.1 = _
    rw [added.2.instance?_attach added.1 c hlive, if_pos rfl, hself]
    rfl
  · change added.1 ∈ (added.2.attach added.1 c).children c
    have hattached := added.2.container?_attach added.1 c hlive c
    rw [if_pos rfl] at hattached
    rw [Scene.children_of_container? _ hattached]
    dsimp only
    split
    · assumption
    · exact List.mem_append_right _ List.mem_cons_self
  · simp [Instance.typeName?, Instance.attachedTo, Instance.new]
  · simp [Instance.properties, Instance.attachedTo, Instance.new]

end Place

end World

/-! ## What a flush leaves -/

/-- Detaching an instance changes of a container at most the list of children. -/
theorem Scene.exists_container?_detach {ε : Type} (scene : Scene ε) (i : InstanceId)
    {c : ContainerId} {container : Container ε} (h : scene.container? c = some container) :
    ∃ children, (scene.detach i .free).2.container? c =
      some ⟨container.name, container.context?, container.engine?, children,
        container.isLive⟩ := by
  by_cases hs : scene.state? i = some .attached
  · obtain ⟨inst, hi, hatt⟩ : ∃ inst, scene.instance? i = some inst ∧ inst.state = .attached := by
      simpa [state?] using hs
    rw [scene.container?_detach_free i hi hatt, h]
    by_cases hp : inst.parent? = some c
    · rw [if_pos hp]
      exact ⟨_, rfl⟩
    · rw [if_neg hp]
      exact ⟨container.children, rfl⟩
  · rw [scene.detach_of_not_attached i .free hs, h]
    exact ⟨container.children, rfl⟩

theorem Tracker.exists_container?_releaseAll {ε : Type} (ids : List InstanceId)
    (scene : Scene ε) {c : ContainerId} {container : Container ε}
    (h : scene.container? c = some container) :
    ∃ children, (releaseAll [] ids scene).2.container? c =
      some ⟨container.name, container.context?, container.engine?, children,
        container.isLive⟩ := by
  induction ids generalizing scene container with
  | nil => exact ⟨container.children, h⟩
  | cons i rest ih =>
    obtain ⟨children, hdetach⟩ := scene.exists_container?_detach i h
    rw [← Scene.container?_release _ i, ← scene.dismiss_nil] at hdetach
    obtain ⟨rest', hrest⟩ := ih _ hdetach
    exact ⟨rest', hrest⟩

namespace Workshop

/-! ## Creating -/

/-- A template that is cached and ready is obtained at once. -/
theorem readyTemplate_of_ready {H : Host} (shop : Workshop H) (container? : Option ContainerId)
    {identifier : String} {handle : TemplateHandle H.Template}
    (hcached : shop.factory.cache.get? (shop.factory.resolve identifier) = some handle)
    (hready : H.status handle.template shop.world.state = .ready) :
    shop.readyTemplate container? identifier = (.ok handle, shop.bindFrom container?) := by
  have hbound : (shop.bindFrom container?).factory.cache = shop.factory.cache := by
    rw [bindFrom]
    split <;> rfl
  have htemplate : (shop.bindFrom container?).template identifier =
      (.ok handle, shop.bindFrom container?) := by
    rw [template, Factory.resolve, TemplateCache.getOrCreate_of_get?]
    · rfl
    · rw [hbound]
      exact hcached
  have hawait : ∀ gate : Gate, gate.await (H.status handle.template) H.pump shop.world.state =
      (.ready, shop.world.state) := by
    intro gate
    rw [Gate.await, Gate.awaitFrom, hready]
  rw [readyTemplate, htemplate]
  simp only [awaitReady]
  rw [world_bindFrom, hawait]
  dsimp only
  rw [← world_bindFrom shop container?]
  rfl

/-- What a name means once the template is ready: neither the flush nor the template
has touched the contexts, and the container has lost children at most. -/
theorem meaning_of_readyTemplate {H : Host} (shop : Workshop H) {c : ContainerId}
    {container : Container H.Engine} (hc : shop.world.scene.container? c = some container)
    {identifier : String} {handle : TemplateHandle H.Template} {next : Workshop H}
    (hready : shop.flush.2.readyTemplate (some c) identifier = (.ok handle, next))
    (contextual : Attributes) :
    (∃ children, next.world.scene.container? c = some ⟨container.name, container.context?,
        container.engine?, children, container.isLive⟩) ∧
      next.world.meaning c next.factory.rootContext contextual = fun name =>
        (contextual.get? name).or (shop.world.contexts.property?
          (container.context?.getD shop.factory.rootContext) name) := by
  obtain ⟨hscene, hcontexts, -, hroot⟩ :=
    shop.flush.2.readyTemplate_frame (some c) identifier
  rw [hready] at hscene hcontexts hroot
  obtain ⟨children, hflushed⟩ :=
    Tracker.exists_container?_releaseAll shop.factory.tracker.pending shop.world.scene hc
  have hnext : next.world.scene.container? c = some ⟨container.name, container.context?,
      container.engine?, children, container.isLive⟩ := by
    rw [show next.world.scene = _ from hscene]
    exact hflushed
  refine ⟨⟨children, hnext⟩, ?_⟩
  funext name
  rw [World.meaning, World.outerContext, hnext, show next.world.contexts = _ from hcontexts,
    show next.factory.rootContext = _ from hroot]
  rfl

/-- The answer of a construction, whether or not the instance is tracked. -/
theorem answer_construct {H : Host} (shop : Workshop H) (handle : TemplateHandle H.Template)
    (container : ContainerId) (contextual direct : Attributes) (ownership : Ownership) :
    (shop.construct handle container contextual direct ownership).1 =
      (shop.world.construct handle container shop.factory.rootContext contextual direct).1 := by
  rw [construct]
  cases shop.world.construct handle container shop.factory.rootContext contextual direct with
  | mk result world => cases result <;> rfl

/-- What creating from a markup component comes to. A name means what the contextual
attributes say, and for the rest what it means in the container's context, or in the
factory's root context if the container has none; a property begins with what its
initializer means there, and has in the end the direct attribute of its name if the initial
value accepts it. If then a required property is null, the creation fails with the names of
all that are; else it fails if the component is no item; else the new instance is attached
and has the declared properties with their final values, and behind them the direct
attributes that are not declared. -/
theorem create_markup (shop : Workshop studio) {c : ContainerId}
    {container : Container studio.Engine} (hc : shop.world.scene.container? c = some container)
    (identifier : String) (contextual direct : Attributes) (ownership : Ownership)
    {handle : TemplateHandle studio.Template} {next : Workshop studio} {template : Nat}
    {component : Markup.Component} {uri source : String}
    (hready : shop.flush.2.readyTemplate (some c) identifier = (.ok handle, next))
    (ht : handle.template = Studio.TemplateRef.markup template)
    (hcomponent : next.world.state.markup.component? template = some component)
    (hcompiled : Markup.compile uri source = .ok component) :
    let lookup := fun name => (contextual.get? name).or
      (shop.world.contexts.property? (container.context?.getD shop.factory.rootContext) name)
    let lacking := component.lacking lookup direct
    let result := shop.create (some c) identifier contextual direct ownership
    (∀ (p : Markup.Property) (value : Value),
        p.BeginsWith lookup value ↔ value = p.initialValue lookup) ∧
      (lacking ≠ [] → result.1 = .error (.completionFailed handle.uri
        ("required property not set: " ++ ", ".intercalate lacking))) ∧
      (lacking = [] → component.kind = .object →
        result.1 = .error (.incompatibleType handle.uri component.name.node)) ∧
      (lacking = [] → component.kind = .item → ∃ i inst, result.1 = .ok i ∧
        result.2.world.scene.instance? i = some inst ∧ inst.state = .attached ∧
        inst.parent? = some c ∧ i ∈ result.2.world.scene.children c ∧
        inst.typeName? = some component.name.node ∧
        inst.properties =
          (component.properties.map fun p =>
            (p.node.name.node, p.node.finalValue lookup direct)) ++
          direct.entries.filter fun e => e.1 ∉ component.propertyNames) := by
  intro lookup lacking result
  have hnodup := Markup.nodup_of_compile hcompiled
  obtain ⟨⟨children, hnext⟩, hmeaning⟩ := shop.meaning_of_readyTemplate hc hready contextual
  have hresult : result = next.construct handle c contextual direct ownership := by
    simp only [result, create]
    rw [hready]
  have hconstruct := World.construct_markup ht hcomponent c next.factory.rootContext contextual
    direct
  dsimp only at hconstruct
  rw [hmeaning, Markup.Component.complete_written lookup direct hnodup] at hconstruct
  rw [hresult, answer_construct, world_construct, hconstruct]
  let inside := next.world.enter c next.factory.rootContext contextual
  refine ⟨fun p value => p.beginsWith_iff lookup value, ?_, ?_, ?_⟩
  · intro hlacking
    rw [if_neg hlacking]
  · intro hlacking hkind
    have hvisual : ¬(component.written lookup direct).isVisual = true := by
      rw [Markup.Component.isVisual_written, hkind]
      intro h
      cases h
    rw [if_pos hlacking]
    refine (inside.place_of_not_visual handle.uri c hvisual).trans ?_
    rw [Markup.Component.typeName_written]
  · intro hlacking hkind
    have hvisual : (component.written lookup direct).isVisual = true := by
      rw [Markup.Component.isVisual_written, hkind]
    rw [if_pos hlacking]
    obtain ⟨i, inst, hi, hinst, hstate, hparent, hmem, htype, hproperties⟩ :=
      inside.place_of_visual handle.uri c hvisual hnext
    refine ⟨i, inst, hi, hinst, hstate, hparent, hmem, ?_, ?_⟩
    · rw [htype, Markup.Component.typeName_written]
    · rw [hproperties, SceneObject.properties,
        Markup.Component.declared_written lookup direct hnodup,
        Markup.Component.dynamic_written lookup direct hnodup]

end Workshop

/-! ### A label -/

namespace Studio

/-- The source of a component with a required property and names in a list. -/
def labelSource : String := "item Label \x7b required property text: [title, width] \x7d"

/-- The component that the source declares. -/
def label : Markup.Component :=
  ⟨.item, ⟨"Label", ⟨5, 10⟩⟩,
    [⟨⟨⟨"text", ⟨31, 35⟩⟩, true,
      some ⟨.list [⟨.name "title", ⟨38, 43⟩⟩, ⟨.name "width", ⟨45, 50⟩⟩], ⟨37, 51⟩⟩⟩, ⟨13, 51⟩⟩]⟩

theorem compile_label : Markup.compile "/label" labelSource = .ok label := by
  have hlexemes : Markup.lexemes labelSource =
      [⟨.keyword .item, ⟨0, 4⟩⟩, ⟨.ident "Label", ⟨5, 10⟩⟩, ⟨.mark .braceOpen, ⟨11, 12⟩⟩,
        ⟨.keyword .required, ⟨13, 21⟩⟩, ⟨.keyword .property, ⟨22, 30⟩⟩,
        ⟨.ident "text", ⟨31, 35⟩⟩, ⟨.mark .colon, ⟨35, 36⟩⟩, ⟨.mark .bracketOpen, ⟨37, 38⟩⟩,
        ⟨.ident "title", ⟨38, 43⟩⟩, ⟨.mark .comma, ⟨43, 44⟩⟩, ⟨.ident "width", ⟨45, 50⟩⟩,
        ⟨.mark .bracketClose, ⟨50, 51⟩⟩, ⟨.mark .braceClose, ⟨52, 53⟩⟩] := by
    decide +kernel
  have hparse : Markup.parse labelSource = .ok label := by
    rw [Markup.parse, hlexemes]
    cbv
  rw [Markup.compile, hparse]
  rfl

/-- A factory that has the label in its cache, and a container without a context. -/
def labelShop : Workshop studio :=
  let engine := (Markup.Engine.new .empty Files.noFiles false).withTemplates
    (Numbered.empty.push ⟨"/label", .ready label⟩)
  let shop : Workshop studio := .new Config.default
    ⟨(⟨engine, .empty, .sleep⟩ : State), .empty, (Scene.empty.addContainer "root" none none).2⟩
  ⟨shop.factory.withCache (shop.factory.cache.keep "/label" (TemplateRef.markup 1)).2, shop.world⟩

end Studio

namespace Workshop

/-- The label keeps its list, which accepts no text, and takes what it does not declare. -/
theorem create_markup_label :
    let result := Studio.labelShop.create (some 1) "/label" (.ofList [("title", .string "a")])
      (.ofList [("text", .string "b"), ("extra", .bool true)]) .delegated
    ∃ i inst, result.1 = .ok i ∧ result.2.world.scene.instance? i = some inst ∧
      inst.properties =
        [("text", .list [.string "a", .null]), ("extra", .bool true)] := by
  let flushed := Studio.labelShop.flush.2
  let handle : TemplateHandle Studio.TemplateRef := ⟨"/label", .markup 1, 0⟩
  have hcached : flushed.factory.cache.get? (flushed.factory.resolve "/label") = some handle := by
    have hresolve : flushed.factory.resolve "/label" = "/label" := by decide +kernel
    rw [hresolve]
    rfl
  have hready := flushed.readyTemplate_of_ready (some 1) hcached rfl
  have hcontainer : Studio.labelShop.world.scene.container? 1 =
      some ⟨"root", none, none, [], true⟩ := rfl
  have hcomponent : (flushed.bindFrom (some 1)).world.state.markup.component? 1 =
      some Studio.label := rfl
  obtain ⟨-, -, -, hitem⟩ := Studio.labelShop.create_markup hcontainer "/label"
    (.ofList [("title", .string "a")]) (.ofList [("text", .string "b"), ("extra", .bool true)])
    .delegated hready rfl hcomponent Studio.compile_label
  obtain ⟨i, inst, hi, hinst, -, -, -, -, hproperties⟩ := hitem (by decide +kernel) rfl
  refine ⟨i, inst, hi, hinst, hproperties.trans ?_⟩
  decide +kernel

end Workshop

end SceneFactory
