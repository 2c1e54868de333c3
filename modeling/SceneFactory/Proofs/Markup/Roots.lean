import SceneFactory.Proofs.Construction.Writes
import SceneFactory.Proofs.Markup.Locations

/-!
# Which root a URI lies under

Roots are added one at a time or many at once. Of those whose beginnings a URI has the longest
decides (`Decides`), and beginnings of one URI are nested in each other, so with distinct
beginnings there is no more than one (`Decides.unique`). `rootOf?_eq_some_iff` says that looking
for a root finds the one that decides.

Main statement: `located_below_longest`. The order and the grouping in which roots are added do not
matter, nor do roots that come on top and do not fit or are shorter. What is located begins with the
directory of the root that decides, and what the URI has behind its beginning follows without the
slashes in front of it (`Extends`).
-/

set_option autoImplicit false

namespace SceneFactory.Markup

/-! ## The root that decides -/

/-- A root of a collection has the longest beginning that fits a URI, in bytes. -/
structure Decides (collection : List (String × String)) (uri : String)
    (root : String × String) : Prop where
  mem : root ∈ collection
  fits : Text.begins uri root.1 = true
  longest : ∀ other ∈ collection, Text.begins uri other.1 = true →
    other.1.utf8ByteSize ≤ root.1.utf8ByteSize

variable {collection : List (String × String)} {uri : String} {root : String × String}

theorem begins_iff_prefixed (uri beginning : String) :
    Text.begins uri beginning = true ↔ beginning.toList <+: uri.toList :=
  List.isPrefixOf_iff_prefix

/-- Beginnings of one text are nested: one that is no longer than another is a beginning of
it. -/
theorem prefix_of_begins {p q : String} (hp : Text.begins uri p = true)
    (hq : Text.begins uri q = true) (hle : p.utf8ByteSize ≤ q.utf8ByteSize) :
    p.toList <+: q.toList := by
  rw [begins_iff_prefixed] at hp hq
  rcases List.prefix_or_prefix_of_prefix hp hq with h | h
  · exact h
  · -- the other one is a beginning of this one and not shorter, so nothing comes behind it
    obtain ⟨rest, rfl⟩ := (begins_iff p q).1 ((begins_iff_prefixed p q).2 h)
    rw [String.utf8ByteSize_append] at hle
    have hrest : rest = "" := String.utf8ByteSize_eq_zero_iff.1 (by omega)
    rw [hrest, String.append_empty]

/-- At most one root of a collection with distinct beginnings decides. -/
theorem Decides.unique {other : String × String} (hdistinct : (collection.map Prod.fst).Nodup)
    (h : Decides collection uri root) (h' : Decides collection uri other) : other = root := by
  have hle := h.longest other h'.mem h'.fits
  have hge := h'.longest root h.mem h.fits
  have hsame : other.1 = root.1 := by
    apply String.toList_inj.1
    have hprefix := prefix_of_begins h'.fits h.fits hle
    exact hprefix.eq_of_length (Nat.le_antisymm hprefix.length_le
      (prefix_of_begins h.fits h'.fits hge).length_le)
  exact List.inj_on_of_nodup_map hdistinct h'.mem h.mem hsame

/-- Which root decides does not depend on the order of the collection. -/
theorem Decides.perm {collection' : List (String × String)} (hperm : collection'.Perm collection)
    (h : Decides collection uri root) : Decides collection' uri root where
  mem := hperm.mem_iff.2 h.mem
  fits := h.fits
  longest other hother := h.longest other (hperm.mem_iff.1 hother)

/-! ## Looking for it -/

/-- Of the roots that are gone through, the last longest one is kept. -/
theorem longest_of_foldl {best : Option (String × String)} {candidates : List (String × String)}
    (h : candidates.foldl longerRoot best = some root) :
    (root ∈ candidates ∨ best = some root) ∧
      (∀ other ∈ candidates, other.1.utf8ByteSize ≤ root.1.utf8ByteSize) ∧
      ∀ other ∈ best, other.1.utf8ByteSize ≤ root.1.utf8ByteSize := by
  induction candidates generalizing best with
  | nil =>
    refine ⟨.inr h, nofun, fun other hother => ?_⟩
    cases Option.some.inj (hother.symm.trans h)
    exact Nat.le_refl _
  | cons first rest ih =>
    obtain ⟨hmem, hrest, hkept⟩ := ih h
    -- the first one is kept, or the one before it is and the first is shorter
    have hstep : (longerRoot best first = some first ∧
          ∀ other ∈ best, other.1.utf8ByteSize ≤ first.1.utf8ByteSize) ∨
        (longerRoot best first = best ∧
          ∃ b, best = some b ∧ first.1.utf8ByteSize ≤ b.1.utf8ByteSize) := by
      cases best with
      | none => exact .inl ⟨rfl, nofun⟩
      | some b =>
        rw [longerRoot]
        split
        · rename_i hle
          refine .inl ⟨rfl, fun other hother => ?_⟩
          cases hother
          exact hle
        · rename_i hlt
          exact .inr ⟨rfl, b, rfl, Nat.le_of_not_le hlt⟩
    rcases hstep with ⟨heq, hbefore⟩ | ⟨heq, b, rfl, hle⟩
    · rw [heq] at hmem hkept
      have hfirst := hkept first rfl
      refine ⟨.inl ?_, List.forall_mem_cons.2 ⟨hfirst, hrest⟩,
        fun other hother => Nat.le_trans (hbefore other hother) hfirst⟩
      rcases hmem with hmem | hsame
      · exact List.mem_cons_of_mem first hmem
      · cases hsame
        exact List.mem_cons_self
    · rw [heq] at hmem hkept
      have hb := hkept b rfl
      exact ⟨hmem.imp_left (List.mem_cons_of_mem first),
        List.forall_mem_cons.2 ⟨Nat.le_trans hle hb, hrest⟩, hkept⟩

/-- Something is kept if there is anything to go through. -/
theorem isSome_foldl_longerRoot {best : Option (String × String)}
    {candidates : List (String × String)} (h : best ≠ none ∨ candidates ≠ []) :
    ∃ root, candidates.foldl longerRoot best = some root := by
  induction candidates generalizing best with
  | nil => exact Option.ne_none_iff_exists'.1 (h.resolve_right fun hne => hne rfl)
  | cons first rest ih =>
    refine ih (.inl ?_)
    cases best with
    | none => exact nofun
    | some b =>
      rw [longerRoot]
      split <;> exact nofun

/-- What is kept of the roots that fit decides. -/
theorem decides_of_foldl
    (h : (collection.filter fun root => Text.begins uri root.1).foldl longerRoot none = some root) :
    Decides collection uri root := by
  obtain ⟨hmem, hlongest, -⟩ := longest_of_foldl h
  obtain ⟨hmem, hfits⟩ := List.mem_filter.1 (hmem.resolve_right nofun)
  exact ⟨hmem, hfits, fun other hother hfit =>
    hlongest other (List.mem_filter.2 ⟨hother, hfit⟩)⟩

/-- Where a root fits, one is kept. -/
theorem exists_kept (hmem : root ∈ collection) (hfits : Text.begins uri root.1 = true) :
    ∃ kept, (collection.filter fun root => Text.begins uri root.1).foldl longerRoot none =
      some kept := by
  have hfitting : root ∈ collection.filter fun root => Text.begins uri root.1 :=
    List.mem_filter.2 ⟨hmem, hfits⟩
  exact isSome_foldl_longerRoot (.inr (List.ne_nil_of_mem hfitting))

/-- Where a root fits, one decides. -/
theorem exists_decides (h : ∃ root ∈ collection, Text.begins uri root.1 = true) :
    ∃ root, Decides collection uri root := by
  obtain ⟨root, hmem, hfits⟩ := h
  obtain ⟨kept, hkept⟩ := exists_kept hmem hfits
  exact ⟨kept, decides_of_foldl hkept⟩

/-- Looking for a root finds the one that decides. -/
theorem rootOf?_eq_some_iff {roots : Roots} :
    rootOf? roots uri = some root ↔ Decides roots.entries uri root := by
  constructor
  · exact decides_of_foldl
  · intro h
    obtain ⟨kept, hkept⟩ := exists_kept h.mem h.fits
    rw [rootOf?, hkept, h.unique roots.nodup_keys (decides_of_foldl hkept)]

/-! ## Adding roots -/

/-- What is added at a time: one root, or many. -/
inductive Addition where
  | root (beginning directory : String)
  | roots (more : Roots)

/-- The roots of an addition. -/
def Addition.entries : Addition → List (String × String)
  | .root beginning directory => [(beginning, directory)]
  | .roots more => more.entries

/-- Roots with others added. -/
def Roots.add (roots : Roots) : Addition → Roots
  | .root beginning directory => roots.insert beginning directory
  | .roots more => roots.insertAll more.entries

/-- The roots after some additions. -/
def mapping (additions : List Addition) : Roots := additions.foldl Roots.add .empty

theorem add_eq_insertAll (roots : Roots) (addition : Addition) :
    roots.add addition = roots.insertAll addition.entries := by
  cases addition <;> rfl

/-- Additions one after the other are one addition of all their roots. -/
theorem foldl_add (roots : Roots) (additions : List Addition) :
    additions.foldl Roots.add roots = roots.insertAll (additions.flatMap Addition.entries) := by
  induction additions generalizing roots with
  | nil => rfl
  | cons addition additions ih =>
    rw [List.foldl_cons, ih, add_eq_insertAll, List.flatMap_cons, Assoc.insertAll, Assoc.insertAll,
      Assoc.insertAll, List.foldl_append]

theorem entries_mapping {additions : List Addition}
    (h : ((additions.flatMap Addition.entries).map Prod.fst).Nodup) :
    (mapping additions).entries = additions.flatMap Addition.entries := by
  rw [mapping, foldl_add]
  exact Assoc.entries_ofList h

/-- A root that does not fit a URI, or is shorter than the one that decides, does not change which
one decides. -/
theorem Decides.insert {roots : Roots} {beginning : String} (directory : String)
    (h : Decides roots.entries uri root)
    (hnew : Text.begins uri beginning = true → beginning.utf8ByteSize < root.1.utf8ByteSize) :
    Decides (roots.insert beginning directory).entries uri root where
  mem := by
    refine Assoc.mem_put_of_ne directory h.mem ?_
    rintro heq
    exact absurd (hnew (heq ▸ h.fits)) (heq ▸ Nat.lt_irrefl _)
  fits := h.fits
  longest other hother hfits := by
    rcases Assoc.mem_of_mem_put hother with rfl | hother
    · exact Nat.le_of_lt (hnew hfits)
    · exact h.longest other hother hfits

/-- Roots that do not fit a URI, or are shorter than the one that decides, do not change which one
decides. -/
theorem Decides.insertAll {roots : Roots} {more : List (String × String)}
    (h : Decides roots.entries uri root)
    (hmore : ∀ other ∈ more, Text.begins uri other.1 = true →
      other.1.utf8ByteSize < root.1.utf8ByteSize) :
    Decides (roots.insertAll more).entries uri root := by
  rw [Assoc.insertAll]
  induction more generalizing roots with
  | nil => exact h
  | cons other more ih =>
    obtain ⟨hother, hmore⟩ := List.forall_mem_cons.1 hmore
    exact ih (h.insert other.2 hother) hmore

/-! ## Paths -/

/-- A path is a directory, a slash where one is needed, and a remainder without the slashes in front
of it. -/
def Extends (directory remainder path : String) : Prop :=
  ∃ slashes separator rest : String,
    remainder = slashes ++ rest ∧ (∀ c ∈ slashes.toList, c = '/') ∧
      rest.toList.head? ≠ some '/' ∧
      separator = (if directory = "" ∨ directory.toList.getLast? = some '/' then "" else "/") ∧
      path = directory ++ separator ++ rest

/-- A path that begins with no slash extends the directory that it is joined to. -/
theorem join_of_relative (directory : String) {rest : String}
    (h : rest.toList.head? ≠ some '/') :
    Files.join directory rest = directory ++
      (if directory = "" ∨ directory.toList.getLast? = some '/' then "" else "/") ++ rest := by
  have hroot : ¬Text.begins rest "/" = true := by
    rw [begins_iff_prefixed]
    rintro ⟨more, hmore⟩
    exact h (by rw [← hmore]; rfl)
  rw [Files.join]
  by_cases hempty : directory = ""
  · rw [if_pos (.inr hempty), if_pos (.inl hempty), hempty, String.append_empty,
      String.empty_append]
  · rw [if_neg (not_or_intro hroot hempty)]
    by_cases hlast : directory.toList.getLast? = some '/'
    · have hends : Text.endsIn directory '/' = true := by rw [Text.endsIn, hlast]; rfl
      rw [if_pos hends, if_pos (.inr hlast), String.append_empty]
    · have hends : ¬Text.endsIn directory '/' = true := by simpa [Text.endsIn] using hlast
      rw [if_neg hends, if_neg (not_or_intro hempty hlast)]

/-- Below a root that decides, the remainder of a URI extends the directory. -/
theorem locate?_of_decides {roots : Roots} {beginning directory remainder : String}
    (h : Decides roots.entries uri (beginning, directory)) (huri : uri = beginning ++ remainder) :
    ∃ path, locate? roots uri = some path ∧ Extends directory remainder path := by
  have hsplit := List.takeWhile_append_dropWhile (p := (· = '/')) (l := remainder.toList)
  have hhead : (remainder.toList.dropWhile (· = '/')).head? ≠ some '/' := by
    intro hslash
    have hnot := List.head?_dropWhile_not (fun c => decide (c = '/')) remainder.toList
    rw [hslash] at hnot
    exact absurd hnot (by decide)
  rw [locate?, rootOf?_eq_some_iff.2 h, huri]
  dsimp only
  rw [behind_append]
  refine ⟨_, rfl, String.ofList (remainder.toList.takeWhile (· = '/')), _,
    String.ofList (remainder.toList.dropWhile (· = '/')), ?_, ?_, ?_, rfl,
    join_of_relative directory ?_⟩
  · rw [← String.ofList_append, hsplit, String.ofList_toList]
  · intro c hc
    rw [String.toList_ofList] at hc
    simpa using List.mem_takeWhile_imp hc
  · rwa [String.toList_ofList]
  · rwa [String.toList_ofList]

/-- A URI is located below the directory of the longest root that fits it, in whatever order and
grouping the roots are added. For all additions of roots with distinct beginnings, of which one at
least fits the URI: every beginning that fits is a beginning of the chosen one, the path is the
chosen root's directory extended by the rest of the URI, and it stays the same whatever else is
added that does not fit or is shorter. -/
theorem located_below_longest (additions : List Addition) (uri : String)
    (hdistinct : ((additions.flatMap Addition.entries).map Prod.fst).Nodup)
    (hfits : ∃ root ∈ additions.flatMap Addition.entries, root.1.toList <+: uri.toList) :
    ∃ beginning directory remainder path,
      (beginning, directory) ∈ additions.flatMap Addition.entries ∧
      uri = beginning ++ remainder ∧
      (∀ other ∈ additions.flatMap Addition.entries, other.1.toList <+: uri.toList →
        other.1.toList <+: beginning.toList) ∧
      Extends directory remainder path ∧
      ∀ others : List Addition,
        (others.flatMap Addition.entries).Perm (additions.flatMap Addition.entries) →
          locate? (mapping others) uri = some path ∧
            ∀ addition : Addition,
              (∀ root ∈ addition.entries, ¬root.1.toList <+: uri.toList ∨
                root.1.utf8ByteSize < beginning.utf8ByteSize) →
              locate? ((mapping others).add addition) uri = some path := by
  simp only [← begins_iff_prefixed] at hfits ⊢
  obtain ⟨⟨beginning, directory⟩, hdecides⟩ := exists_decides hfits
  obtain ⟨remainder, huri⟩ := (begins_iff _ _).1 hdecides.fits
  -- the path depends on the root that decides and on nothing else
  have hpath : ∀ {roots : Roots}, Decides roots.entries uri (beginning, directory) →
      locate? roots uri = locate? (mapping additions) uri := by
    intro roots h
    rw [← entries_mapping hdistinct] at hdecides
    rw [locate?, locate?, rootOf?_eq_some_iff.2 h, rootOf?_eq_some_iff.2 hdecides]
  obtain ⟨path, hlocate, hextends⟩ :=
    locate?_of_decides ((entries_mapping hdistinct).symm ▸ hdecides) huri
  refine ⟨beginning, directory, remainder, path, hdecides.mem, huri,
    fun other hother hfit => ?_, hextends, fun others hperm => ?_⟩
  · exact (begins_iff_prefixed _ _).2
      (prefix_of_begins hfit hdecides.fits (hdecides.longest other hother hfit))
  · have hothers : Decides (mapping others).entries uri (beginning, directory) := by
      rw [entries_mapping ((hperm.map Prod.fst).nodup_iff.2 hdistinct)]
      exact hdecides.perm hperm
    refine ⟨(hpath hothers).trans hlocate, fun addition haddition => ?_⟩
    rw [add_eq_insertAll]
    refine (hpath (hothers.insertAll fun other hother hfit => ?_)).trans hlocate
    exact (haddition other hother).resolve_left fun hnot => hnot hfit

/-- A root, and one nested in it that is added with another one. -/
def nestedRoots : List Addition :=
  [.root "qrc:/" "/srv", .roots ((Assoc.empty.insert "qrc:/a/" "/var").insert "mem:" "/tmp")]

/-- Two slashes behind the nested root: its directory stays in front, whichever root comes first and
whatever shorter one comes on top. -/
theorem located_below_longest_of_nestedRoots :
    ((nestedRoots.flatMap Addition.entries).map Prod.fst).Nodup ∧
      (∃ root ∈ nestedRoots.flatMap Addition.entries, root.1.toList <+: "qrc:/a///b".toList) ∧
      locate? (mapping nestedRoots) "qrc:/a///b" = some "/var/b" ∧
      locate? (mapping nestedRoots.reverse) "qrc:/a///b" = some "/var/b" ∧
      locate? ((mapping nestedRoots.reverse).add (.root "qrc:" "/b")) "qrc:/a///b" =
        some "/var/b" := by
  have hdistinct : ((nestedRoots.flatMap Addition.entries).map Prod.fst).Nodup := by decide
  have hfits : ∃ root ∈ nestedRoots.flatMap Addition.entries,
      root.1.toList <+: "qrc:/a///b".toList := by decide
  have hlocate : locate? (mapping nestedRoots) "qrc:/a///b" = some "/var/b" := by decide
  obtain ⟨beginning, directory, remainder, path, hmem, huri, hlongest, -, hothers⟩ :=
    located_below_longest nestedRoots "qrc:/a///b" hdistinct hfits
  obtain ⟨hsame, -⟩ := hothers nestedRoots (List.Perm.refl _)
  cases Option.some.inj (hsame.symm.trans hlocate)
  obtain ⟨hreverse, hadded⟩ := hothers nestedRoots.reverse (by decide)
  refine ⟨hdistinct, hfits, hlocate, hreverse, hadded _ fun root hroot => .inr ?_⟩
  obtain rfl := List.mem_singleton.1 hroot
  have hnested := hlongest ("qrc:/a/", "/var") (by decide) (by decide)
  obtain ⟨more, rfl⟩ := (begins_iff _ _).1 ((begins_iff_prefixed _ _).2 hnested)
  rw [String.utf8ByteSize_append]
  exact Nat.lt_of_lt_of_le (by decide) (Nat.le_add_right _ _)

end SceneFactory.Markup
