import SceneFactory.Proofs.Construction.Create

/-!
# Objects under any writes

A markup object can be written through three entries: as a direct attribute, through its binding
setter, or through its reflective setter. What becomes of a value depends on the name and on what
the object holds at that time (`perform_eq`), but a whole run of writes comes to two lists of
entries, those that the binding setter took and those that the reflective setter took, written one
after the other into the declared and into the dynamic properties (`after_eq`).

Main statement: `holds_what_was_taken`, on what an object holds and how it comes to hold it. From a
value that is not null a slot gets to a value that it would not accept only by being null on the way
(`exists_null_between`).
-/

set_option autoImplicit false

namespace SceneFactory

/-! ## Entries written one after the other -/

namespace Assoc

variable {κ ν : Type} [DecidableEq κ]

/-- The last value under a key in a list of entries. -/
def lastOf (k : κ) (es : List (κ × ν)) : Option ν :=
  (es.filter fun e => e.1 = k).getLast?.map Prod.snd

theorem lastOf_cons (k : κ) (e : κ × ν) (es : List (κ × ν)) :
    lastOf k (e :: es) = (lastOf k es).or (if e.1 = k then some e.2 else none) := by
  rw [lastOf, lastOf, List.filter_cons]
  by_cases hk : e.1 = k
  · rw [if_pos (by simpa using hk), if_pos hk, List.getLast?_cons]
    cases (es.filter fun e => e.1 = k).getLast? <;> rfl
  · rw [if_neg (by simpa using hk), if_neg hk, Option.or_none]

/-- The last value that is written under a key is the one that is found there. -/
theorem get?_insertAll (a : Assoc κ ν) (es : List (κ × ν)) (k : κ) :
    (a.insertAll es).get? k = (lastOf k es).or (a.get? k) := by
  rw [insertAll]
  induction es generalizing a with
  | nil => rfl
  | cons e es ih =>
    rw [List.foldl_cons, ih, get?_insert, lastOf_cons]
    by_cases hk : e.1 = k
    · rw [if_pos hk, if_pos hk]
      cases lastOf k es <;> rfl
    · rw [if_neg hk, if_neg hk, Option.or_none]

/-- The keys stand in the order in which they were first written. -/
theorem keys_ofList (es : List (κ × ν)) : (ofList es).keys = (es.map Prod.fst).eraseDups := by
  induction es using List.reverseRecOn with
  | nil => rfl
  | append_singleton es e ih =>
    have hinsert : ofList (es ++ [e]) = (ofList es).insert e.1 e.2 := by
      rw [ofList, insertAll, List.foldl_append]
      rfl
    rw [hinsert, keys_insert, ih, List.map_append, List.eraseDups_append]
    simp only [List.mem_eraseDups, List.map_singleton]
    -- a key that is there keeps its place
    by_cases hk : e.1 ∈ es.map Prod.fst
    · rw [if_pos hk, List.removeAll, List.filter_cons_of_neg (by simpa using hk)]
      exact (List.append_nil _).symm
    · rw [if_neg hk, List.removeAll, List.filter_cons_of_pos (by simpa using hk)]
      rfl

end Assoc

/-! ## Acceptance -/

namespace Value

/-- The name of what a slot may be filled with: the two kinds of numbers go by one name. -/
def slotType : Value → String
  | .int _ | .float _ => "number"
  | v => v.typeName

/-- A value accepts null, what is of its own slot type, and if it is null everything. -/
theorem accepts_iff (v w : Value) :
    v.accepts w = true ↔ v = .null ∨ w = .null ∨ v.slotType = w.slotType := by
  cases v <;> cases w <;> simp [accepts, slotType, typeName]

/-- Acceptance goes on over values that are not null. -/
theorem accepts_trans {u v w : Value} (hv : v ≠ .null) (huv : u.accepts v = true)
    (hvw : v.accepts w = true) : u.accepts w = true := by
  rw [accepts_iff] at huv hvw ⊢
  rcases huv with hu | hnull | huv
  · exact .inl hu
  · exact absurd hnull hv
  · rcases hvw with hnull | hw | hvw
    · exact absurd hnull hv
    · exact .inr (.inl hw)
    · exact .inr (.inr (huv.trans hvw))

end Value

namespace SceneObject

/-! ## Writes -/

/-- A write through one of the three entries of an object. -/
inductive Write where
  | direct (name : String) (value : Value)
  | binding (name : String) (value : Value)
  | reflective (name : String) (value : Value)

/-- The name that is written to. -/
def Write.name : Write → String
  | .direct n _ | .binding n _ | .reflective n _ => n

/-- The value that is written. -/
def Write.value : Write → Value
  | .direct _ v | .binding _ v | .reflective _ v => v

/-- Whether a write comes to the binding setter if that knows the name. -/
def Write.mayBind : Write → Bool
  | .reflective _ _ => false
  | _ => true

/-- Whether a write comes to the reflective setter if the name is not declared. -/
def Write.mayReflect : Write → Bool
  | .binding _ _ => false
  | _ => true

/-- Performs a write and says which setter took the value. A setter that refuses it drops it. -/
def perform (o : SceneObject) : Write → AttributeWrite × SceneObject
  | .direct name value => o.writeAttribute name value
  | .binding name value =>
    (if (o.write name value).1 then .bound else .dropped, (o.write name value).2)
  | .reflective name value =>
    (if (o.setDynamic name value).1 then .reflective else .dropped, (o.setDynamic name value).2)

/-- The object after some writes. -/
def after (o : SceneObject) : List Write → SceneObject
  | [] => o
  | w :: ws => (o.perform w).2.after ws

/-- The entries that one of the setters took in some writes, in order. -/
def taken (setter : AttributeWrite) (o : SceneObject) : List Write → List (String × Value)
  | [] => []
  | w :: ws =>
    (if (o.perform w).1 = setter then [(w.name, w.value)] else []) ++
      (o.perform w).2.taken setter ws

variable {o : SceneObject}

theorem write_of_declared {name : String} {current : Value}
    (hc : o.declared.get? name = some current) (value : Value) :
    o.write name value =
      if current.accepts value then (true, o.withDeclared (o.declared.insert name value))
      else (false, o) := by
  rw [write, hc]

theorem write_of_undeclared {name : String} (hc : o.declared.get? name = none) (value : Value) :
    o.write name value = (false, o) := by
  rw [write, hc]

theorem isWritable_eq (h : o.IsWritten) (name : String) :
    o.isWritable name = (o.declared.get? name).isSome := by
  rw [isWritable, h.1]
  rfl

theorem setDynamic_eq (h : o.IsWritten) (name : String) (value : Value) :
    o.setDynamic name value =
      if (o.declared.get? name).isSome then (false, o)
      else (true, o.withDynamic (o.dynamic.insert name value)) := by
  rw [setDynamic, h.2]
  rfl

/-- What one write does to a markup object. -/
theorem perform_eq (h : o.IsWritten) (w : Write) :
    o.perform w =
      match o.declared.get? w.name with
      | some current =>
        if w.mayBind && current.accepts w.value then
          (.bound, o.withDeclared (o.declared.insert w.name w.value))
        else (.dropped, o)
      | none =>
        if w.mayReflect then (.reflective, o.withDynamic (o.dynamic.insert w.name w.value))
        else (.dropped, o) := by
  cases w with
  | direct name value =>
    rw [perform, writeAttribute, isWritable_eq h, setDynamic_eq h]
    cases hc : o.declared.get? name with
    | some current =>
      rw [write_of_declared hc]
      cases ha : current.accepts value <;> simp [Write.name, Write.value, Write.mayBind, hc, ha]
    | none => simp [Write.name, Write.value, Write.mayReflect, hc]
  | binding name value =>
    rw [perform]
    cases hc : o.declared.get? name with
    | some current =>
      rw [write_of_declared hc]
      cases ha : current.accepts value <;> simp [Write.name, Write.value, Write.mayBind, hc, ha]
    | none =>
      rw [write_of_undeclared hc]
      simp [Write.name, Write.mayReflect, hc]
  | reflective name value =>
    rw [perform, setDynamic_eq h]
    cases hc : o.declared.get? name with
    | some current => simp [Write.name, Write.mayBind, hc]
    | none => simp [Write.name, Write.value, Write.mayReflect, hc]

/-- The three things that can come of a write: it is dropped and nothing happens, a declared
slot that accepts the value takes it, or the value becomes dynamic under a name that is not
declared. -/
theorem perform_cases (h : o.IsWritten) (w : Write) :
    o.perform w = (.dropped, o) ∨
      (∃ current, o.declared.get? w.name = some current ∧ current.accepts w.value = true ∧
        o.perform w = (.bound, o.withDeclared (o.declared.insert w.name w.value))) ∨
      (o.declared.get? w.name = none ∧
        o.perform w = (.reflective, o.withDynamic (o.dynamic.insert w.name w.value))) := by
  rw [perform_eq h]
  cases hc : o.declared.get? w.name with
  | some current =>
    dsimp only
    split
    · rename_i htaken
      rw [Bool.and_eq_true] at htaken
      exact .inr (.inl ⟨current, rfl, htaken.2, rfl⟩)
    · exact .inl rfl
  | none =>
    dsimp only
    split
    · exact .inr (.inr ⟨rfl, rfl⟩)
    · exact .inl rfl

theorem IsWritten.perform (h : o.IsWritten) (w : Write) : (o.perform w).2.IsWritten := by
  rcases perform_cases h w with hw | ⟨-, -, -, hw⟩ | ⟨-, hw⟩ <;> rw [hw] <;> exact h

theorem declaredNames_perform (h : o.IsWritten) (w : Write) :
    (o.perform w).2.declaredNames = o.declaredNames := by
  rcases perform_cases h w with hw | ⟨current, hc, -, hw⟩ | ⟨-, hw⟩ <;> rw [hw]
  · have hmem : w.name ∈ o.declared.keys := by
      rw [← Assoc.contains_iff_mem_keys, Assoc.contains, hc]
      rfl
    exact (o.declared.keys_insert w.name w.value).trans (if_pos hmem)
  · rfl

/-- A write to one name changes no other. -/
theorem property?_perform_of_ne (h : o.IsWritten) {w : Write} {other : String}
    (hne : w.name ≠ other) : (o.perform w).2.property? other = o.property? other := by
  rcases perform_cases h w with hw | ⟨-, -, -, hw⟩ | ⟨-, hw⟩ <;> rw [hw]
  · rw [property?, property?, withDeclared, Assoc.get?_insert, if_neg hne]
  · rw [property?, property?, withDynamic, Assoc.get?_insert, if_neg hne]

/-- A slot keeps its value or gets one that it accepts. -/
theorem slot_perform (h : o.IsWritten) (w : Write) {name : String} {v : Value}
    (hv : o.declared.get? name = some v) :
    ∃ v', (o.perform w).2.declared.get? name = some v' ∧ v.accepts v' = true := by
  rcases perform_cases h w with hw | ⟨current, hc, ha, hw⟩ | ⟨-, hw⟩ <;> rw [hw]
  · exact ⟨v, hv, v.accepts_self⟩
  · by_cases hn : w.name = name
    · subst hn
      cases hv.symm.trans hc
      exact ⟨w.value, Assoc.get?_insert_self _ _ _, ha⟩
    · exact ⟨v, ((o.declared.get?_insert _ _ _).trans (if_neg hn)).trans hv, v.accepts_self⟩
  · exact ⟨v, hv, v.accepts_self⟩

/-! ## Runs of writes -/

theorem after_append (o : SceneObject) (ws more : List Write) :
    o.after (ws ++ more) = (o.after ws).after more := by
  induction ws generalizing o with
  | nil => rfl
  | cons w ws ih => exact ih (o.perform w).2

theorem IsWritten.after (h : o.IsWritten) (ws : List Write) : (o.after ws).IsWritten := by
  induction ws generalizing o with
  | nil => exact h
  | cons w ws ih => exact ih (h.perform w)

theorem declaredNames_after (h : o.IsWritten) (ws : List Write) :
    (o.after ws).declaredNames = o.declaredNames := by
  induction ws generalizing o with
  | nil => rfl
  | cons w ws ih => exact (ih (h.perform w)).trans (declaredNames_perform h w)

/-- A run of writes writes what the setters took. -/
theorem after_eq (h : o.IsWritten) (ws : List Write) :
    o.after ws =
      (o.withDeclared (o.declared.insertAll (o.taken .bound ws))).withDynamic
        (o.dynamic.insertAll (o.taken .reflective ws)) := by
  induction ws generalizing o with
  | nil => rfl
  | cons w ws ih =>
    rw [after, taken, taken, ih (h.perform w)]
    rcases perform_cases h w with hw | ⟨-, -, -, hw⟩ | ⟨-, hw⟩ <;> rw [hw] <;> rfl

/-- What becomes dynamic is not declared. -/
theorem not_mem_declaredNames_of_taken (h : o.IsWritten) {ws : List Write} {e : String × Value}
    (he : e ∈ o.taken .reflective ws) : e.1 ∉ o.declaredNames := by
  induction ws generalizing o with
  | nil => cases he
  | cons w ws ih =>
    rw [taken, List.mem_append] at he
    rcases he with he | he
    · rcases perform_cases h w with hw | ⟨-, -, -, hw⟩ | ⟨hc, hw⟩ <;> rw [hw] at he
      · cases he
      · cases he
      · -- the reflective setter was asked, so no slot has the name
        cases List.mem_singleton.1 he
        exact (o.declared.get?_eq_none_iff w.name).1 hc
    · rw [← declaredNames_perform h w]
      exact ih (h.perform w) he

/-- From one value to another that it does not accept a slot gets only by being null. -/
theorem exists_null_between (h : o.IsWritten) {ws : List Write} {name : String} {v v' : Value}
    (hv : o.declared.get? name = some v) (hv' : (o.after ws).declared.get? name = some v')
    (hnot : v.accepts v' = false) :
    ∃ before rest, ws = before ++ rest ∧ (o.after before).declared.get? name = some .null := by
  induction ws generalizing o v with
  | nil =>
    cases hv.symm.trans hv'
    rw [v'.accepts_self] at hnot
    cases hnot
  | cons w ws ih =>
    obtain ⟨u, hu, hvu⟩ := slot_perform h w hv
    by_cases hnull : u = .null
    · exact ⟨[w], ws, rfl, hnull ▸ hu⟩
    · -- what accepts the value on the way accepts what that accepts
      have hnext : u.accepts v' = false := by
        rw [Bool.eq_false_iff] at hnot ⊢
        exact fun ha => hnot (Value.accepts_trans hnull hvu ha)
      obtain ⟨before, rest, rfl, hslot⟩ := ih (h.perform w) hu hv' hnext
      exact ⟨w :: before, rest, rfl, hslot⟩

/-! ## The two views of the properties -/

theorem property?_of_declared {name : String} (h : name ∈ o.declaredNames) :
    o.property? name = o.declared.get? name := by
  rw [property?]
  cases hc : o.declared.get? name with
  | some v => rfl
  | none => exact absurd h ((o.declared.get?_eq_none_iff name).1 hc)

theorem property?_of_not_declared {name : String} (h : name ∉ o.declaredNames) :
    o.property? name = o.dynamic.get? name := by
  rw [property?, (o.declared.get?_eq_none_iff name).2 h, Option.none_or]

/-- No name is declared and dynamic. -/
def IsSplit (o : SceneObject) : Prop := ∀ name ∈ o.dynamic.keys, name ∉ o.declaredNames

theorem IsSplit.nodup_properties (h : o.IsSplit) : (o.properties.map Prod.fst).Nodup := by
  rw [properties, List.map_append]
  refine List.nodup_append.2 ⟨o.declared.nodup_keys, o.dynamic.nodup_keys, ?_⟩
  rintro name hdeclared _ hdynamic rfl
  exact h name hdynamic hdeclared

/-- What is listed is what is found. -/
theorem IsSplit.mem_properties_iff (h : o.IsSplit) {name : String} {value : Value} :
    (name, value) ∈ o.properties ↔ o.property? name = some value := by
  have hfind : ∀ es : List (String × Value), (es.map Prod.fst).Nodup →
      ((name, value) ∈ es ↔ Assoc.find name es = some value) := by
    intro es hnodup
    refine ⟨Assoc.find_of_mem hnodup, fun hfound => ?_⟩
    have hmem : name ∈ es.map Prod.fst := by
      by_contra hnot
      rw [(Assoc.find_eq_none_iff name es).2 hnot] at hfound
      cases hfound
    obtain ⟨⟨_, v⟩, he, rfl⟩ := List.mem_map.1 hmem
    cases (Assoc.find_of_mem hnodup he).symm.trans hfound
    exact he
  have happend : ∀ es fs : List (String × Value),
      Assoc.find name (es ++ fs) = (Assoc.find name es).or (Assoc.find name fs) := by
    intro es fs
    induction es with
    | nil => rfl
    | cons e es ih =>
      rw [List.cons_append, Assoc.find, Assoc.find]
      split
      · rfl
      · exact ih
  rw [hfind _ h.nodup_properties, properties, happend]
  rfl

/-- What the setters take of a run, from an object without dynamic properties: the dynamic ones are
those that the reflective setter took. -/
theorem dynamic_after (h : o.IsWritten) (hempty : o.dynamic = .empty) (ws : List Write) :
    (o.after ws).dynamic = .ofList (o.taken .reflective ws) := by
  rw [after_eq h, Assoc.ofList, ← hempty]
  rfl

theorem isSplit_after (h : o.IsWritten) (hempty : o.dynamic = .empty) (ws : List Write) :
    (o.after ws).IsSplit := by
  intro name hname
  rw [dynamic_after h hempty, Assoc.keys_ofList, List.mem_eraseDups] at hname
  obtain ⟨e, he, rfl⟩ := List.mem_map.1 hname
  rw [declaredNames_after h]
  exact not_mem_declaredNames_of_taken h he

/-- A declared slot holds the last value that it took. -/
theorem property?_after_of_declared (h : o.IsWritten) (ws : List Write) {name : String} {v : Value}
    (hv : o.declared.get? name = some v) :
    (o.after ws).property? name = some ((Assoc.lastOf name (o.taken .bound ws)).getD v) := by
  have hget : (o.after ws).declared.get? name =
      some ((Assoc.lastOf name (o.taken .bound ws)).getD v) := by
    rw [after_eq h]
    refine (Assoc.get?_insertAll _ _ _).trans ?_
    rw [hv]
    cases Assoc.lastOf name (o.taken .bound ws) <;> rfl
  rw [property?, hget, Option.some_or]

/-- A dynamic name holds the last value that was written. -/
theorem property?_after_of_not_declared (h : o.IsWritten) (hempty : o.dynamic = .empty)
    (ws : List Write) {name : String} (hname : name ∉ o.declaredNames) :
    (o.after ws).property? name = Assoc.lastOf name (o.taken .reflective ws) := by
  rw [← declaredNames_after h ws] at hname
  rw [property?_of_not_declared hname, dynamic_after h hempty, Assoc.ofList, Assoc.get?_insertAll,
    Assoc.get?_empty, Option.or_none]

/-! ## When a setter takes a value -/

theorem perform_bound_iff (h : o.IsWritten) (w : Write) :
    (o.perform w).1 = .bound ↔ w.mayBind = true ∧ w.name ∈ o.declaredNames ∧
      ∀ v, o.property? w.name = some v → v.accepts w.value = true := by
  rw [perform_eq h]
  cases hc : o.declared.get? w.name with
  | some current =>
    have hmem : w.name ∈ o.declaredNames := by
      rw [declaredNames, ← Assoc.contains_iff_mem_keys, Assoc.contains, hc]
      rfl
    rw [property?_of_declared hmem, hc]
    cases w.mayBind <;> cases ha : current.accepts w.value <;> simp [ha, hmem]
  | none =>
    have hmem : w.name ∉ o.declaredNames := (o.declared.get?_eq_none_iff w.name).1 hc
    cases w.mayReflect <;> simp [hmem]

theorem perform_reflective_iff (h : o.IsWritten) (w : Write) :
    (o.perform w).1 = .reflective ↔ w.mayReflect = true ∧ w.name ∉ o.declaredNames := by
  rw [perform_eq h, declaredNames, ← o.declared.get?_eq_none_iff w.name]
  cases hc : o.declared.get? w.name with
  | some current => cases w.mayBind <;> cases ha : current.accepts w.value <;> simp [ha]
  | none => cases w.mayReflect <;> simp

/-- What is dropped changes nothing, and what is taken is found. -/
theorem perform_dropped_or_found (h : o.IsWritten) (w : Write) :
    ((o.perform w).1 = .dropped → (o.perform w).2 = o) ∧
      ((o.perform w).1 ≠ .dropped → (o.perform w).2.property? w.name = some w.value) := by
  rcases perform_cases h w with hw | ⟨-, -, -, hw⟩ | ⟨hc, hw⟩ <;> rw [hw]
  · exact ⟨fun _ => rfl, fun hnot => absurd rfl hnot⟩
  · refine ⟨by simp, fun _ => ?_⟩
    rw [property?, withDeclared, Assoc.get?_insert_self, Option.some_or]
  · refine ⟨by simp, fun _ => ?_⟩
    rw [property?, withDynamic, hc, Assoc.get?_insert_self, Option.none_or]

end SceneObject

namespace Markup

/-- What an object holds after any writes, and how it comes to hold it. For every component
that compiles, every look-up of names and every run of writes through any of the three entries:

* the declared names are those of the component, in its order, and distinct;
* the dynamic names are distinct, none of them is declared, and they stand in the order in which
  the reflective setter first took them;
* all names are listed once, the declared ones first, and what is listed is what is found;
* a declared slot holds the last value that the binding setter took for it, or its initial value if
  there is none, and any other name holds the last value that the reflective setter took for it;
* the binding setter takes a value iff the write comes to it and the slot of that name accepts it,
  the reflective setter iff the write comes to it and the name is not declared; what is taken is
  found, what is dropped changes nothing, and no write changes another name;
* between a value of a slot and a later one that it would not accept the slot is null. -/
theorem holds_what_was_taken {uri source : String} {component : Component}
    (h : compile uri source = .ok component) (lookup : String → Option Value)
    (ws : List SceneObject.Write) :
    let begun := component.construct lookup
    let bound := begun.taken .bound ws
    let reflected := begun.taken .reflective ws
    let o := begun.after ws
    (o.declaredNames = component.propertyNames ∧ o.declaredNames.Nodup) ∧
      (o.dynamic.keys = (reflected.map Prod.fst).eraseDups ∧ o.dynamic.keys.Nodup ∧
        ∀ name ∈ o.dynamic.keys, name ∉ o.declaredNames) ∧
      (o.properties.map Prod.fst = o.declaredNames ++ o.dynamic.keys ∧
        (o.properties.map Prod.fst).Nodup ∧
        ∀ name value, (name, value) ∈ o.properties ↔ o.property? name = some value) ∧
      ((∀ p ∈ component.properties, o.property? p.node.name.node =
          some ((Assoc.lastOf p.node.name.node bound).getD (p.node.initialValue lookup))) ∧
        ∀ name, name ∉ o.declaredNames → o.property? name = Assoc.lastOf name reflected) ∧
      (∀ w : SceneObject.Write,
        let next := o.perform w
        (next.1 = .bound ↔ w.mayBind = true ∧ w.name ∈ o.declaredNames ∧
            ∀ v, o.property? w.name = some v → v.accepts w.value = true) ∧
          (next.1 = .reflective ↔ w.mayReflect = true ∧ w.name ∉ o.declaredNames) ∧
          (next.1 ≠ .dropped → next.2.property? w.name = some w.value) ∧
          (next.1 = .dropped → next.2 = o) ∧
          ∀ other, w.name ≠ other → next.2.property? other = o.property? other) ∧
      ∀ (more : List SceneObject.Write) (name : String) (v v' : Value),
        name ∈ o.declaredNames → o.property? name = some v →
        (o.after more).property? name = some v' → v.accepts v' = false →
        ∃ before rest, more = before ++ rest ∧ (o.after before).property? name = some .null := by
  intro begun bound reflected o
  have hnodup := nodup_of_compile h
  have hwritten : begun.IsWritten := component.isWritten_construct lookup
  have ho : o.IsWritten := hwritten.after ws
  have hnames : begun.declaredNames = component.propertyNames :=
    component.declaredNames_construct lookup hnodup
  have hkept : o.declaredNames = begun.declaredNames := SceneObject.declaredNames_after hwritten ws
  have hsplit : o.IsSplit := SceneObject.isSplit_after hwritten rfl ws
  have hdynamic : o.dynamic = .ofList reflected := SceneObject.dynamic_after hwritten rfl ws
  refine ⟨⟨hkept.trans hnames, o.declared.nodup_keys⟩, ⟨?_, o.dynamic.nodup_keys, hsplit⟩,
    ⟨List.map_append, hsplit.nodup_properties, fun _ _ => hsplit.mem_properties_iff⟩,
    ⟨?_, ?_⟩, ?_, ?_⟩
  · rw [hdynamic, Assoc.keys_ofList]
  · intro p hp
    apply SceneObject.property?_after_of_declared hwritten ws
    apply Assoc.find_of_mem begun.declared.nodup_keys
    rw [component.declared_construct lookup hnodup]
    exact List.mem_map.2 ⟨p, hp, rfl⟩
  · intro name hname
    exact SceneObject.property?_after_of_not_declared hwritten rfl ws (hkept ▸ hname)
  · intro w next
    obtain ⟨hdropped, hfound⟩ := SceneObject.perform_dropped_or_found ho w
    exact ⟨SceneObject.perform_bound_iff ho w, SceneObject.perform_reflective_iff ho w, hfound,
      hdropped, fun other hne => SceneObject.property?_perform_of_ne ho hne⟩
  · intro more name v v' hname hv hv' hnot
    -- the name is declared all along, so both views are those of the slot
    have hlater : ∀ more, (o.after more).property? name = (o.after more).declared.get? name := by
      intro more
      apply SceneObject.property?_of_declared
      rw [SceneObject.declaredNames_after ho]
      exact hname
    rw [SceneObject.property?_of_declared hname] at hv
    rw [hlater] at hv'
    obtain ⟨before, rest, hsplits, hslot⟩ := SceneObject.exists_null_between ho hv hv' hnot
    exact ⟨before, rest, hsplits, (hlater before).trans hslot⟩

/-- Writes to a label: its list takes no text, but null, and then text; a name that it does not
declare is none for the binding setter. -/
def labelWrites : List SceneObject.Write :=
  [.direct "text" (.string "b"), .reflective "text" .null, .binding "text" .null,
    .direct "text" (.string "c"), .binding "extra" (.int 1), .direct "extra" (.int 1),
    .reflective "more" (.bool true), .reflective "extra" (.string "d")]

/-- The label that was written to: the extra name was written twice and stands first. -/
theorem holds_what_was_taken_of_label :
    let begun := Studio.label.construct fun _ => none
    let o := begun.after labelWrites
    compile "/label" Studio.labelSource = .ok Studio.label ∧
      o.dynamic.keys = ["extra", "more"] ∧
      o.property? "text" = some (.string "c") ∧ o.property? "extra" = some (.string "d") ∧
      ∃ before rest, labelWrites = before ++ rest ∧
        (begun.after before).property? "text" = some .null := by
  intro begun o
  obtain ⟨-, ⟨hkeys, -⟩, -, ⟨hdeclared, hothers⟩, -⟩ :=
    holds_what_was_taken Studio.compile_label (fun _ => none) labelWrites
  have htext : o.property? "text" = some (.string "c") :=
    (hdeclared _ List.mem_cons_self).trans (by decide +kernel)
  have hextra : o.property? "extra" = some (.string "d") :=
    (hothers "extra" (by decide +kernel)).trans (by decide +kernel)
  -- from the start the slot goes from a list to a text
  obtain ⟨-, -, -, -, -, hbetween⟩ :=
    holds_what_was_taken Studio.compile_label (fun _ => none) []
  have hstart : begun.property? "text" = some (.list [.null, .null]) := by decide +kernel
  exact ⟨Studio.compile_label, hkeys.trans (by decide +kernel), htext, hextra,
    hbetween labelWrites "text" _ _ (by decide +kernel) hstart htext rfl⟩

end Markup

end SceneFactory
