import SceneFactory.Markup.Location
import SceneFactory.Proofs.Template.Resolution

/-!
# Which URIs spell the paths of their files

Where no root says where a URI's file is, the URI spells its path itself, unless it begins with
a scheme of its own. `Spells` states this as a relation between URIs and paths, and every URI is
in it with exactly one answer (`existsUnique_spells`).

A URI that begins with a root marker is taken for a full locator just like one that begins with a
scheme (`isAbsolute_iff`), so a colon further on is mistaken for the end of a scheme. Main
statement: `located_as_spelled_iff`, which says that this is the one case in which locating a URI
does not give what the URI spells.
-/

set_option autoImplicit false

namespace SceneFactory.Markup

/-! ## Schemes -/

/-- Characters spell a scheme: a letter, then letters, digits, `+`, `-` and `.`. -/
def IsScheme (cs : List Char) : Prop :=
  ∃ letter more, cs = letter :: more ∧ letter.isAlpha = true ∧
    ∀ c ∈ more, c.isAlphanum = true ∨ c = '+' ∨ c = '-' ∨ c = '.'

/-- A URI begins with a scheme and a colon. -/
def HasScheme (uri : String) (scheme : List Char) : Prop :=
  IsScheme scheme ∧ ∃ rest, uri.toList = scheme ++ ':' :: rest

/-- A URI begins with a root marker. -/
def IsRooted (uri : String) : Prop := uri.toList.head? = some '/' ∨ uri.toList.head? = some '\\'

variable {uri : String} {scheme : List Char}

theorem isScheme_eq_true_iff (cs : List Char) : Template.isScheme cs = true ↔ IsScheme cs := by
  cases cs with
  | nil => simp [Template.isScheme, IsScheme]
  | cons c cs =>
    simp [Template.isScheme, IsScheme, Template.isLetter, Template.isSchemeRest, or_assoc]

/-- The first colon ends a scheme. -/
theorem IsScheme.colon_not_mem (h : IsScheme scheme) : ':' ∉ scheme := by
  obtain ⟨letter, more, rfl, hletter, hmore⟩ := h
  intro hmem
  rcases List.mem_cons.1 hmem with rfl | hmem
  · exact absurd hletter (by decide)
  · exact absurd (hmore ':' hmem) (by decide)

/-- The scheme of a URI is what stands before its first colon. -/
theorem hasScheme_iff :
    HasScheme uri scheme ↔
      IsScheme scheme ∧ ':' ∈ uri.toList ∧ uri.toList.takeWhile (· ≠ ':') = scheme := by
  refine and_congr_right fun hscheme => ?_
  constructor
  · rintro ⟨rest, hrest⟩
    rw [hrest]
    refine ⟨List.mem_append_right _ List.mem_cons_self, ?_⟩
    rw [List.takeWhile_append_of_pos]
    · simp
    · intro c hc
      simpa using fun heq : c = ':' => hscheme.colon_not_mem (heq ▸ hc)
  · rintro ⟨hmem, htaken⟩
    have hsplit := List.takeWhile_append_dropWhile (p := (· ≠ ':')) (l := uri.toList)
    rw [htaken] at hsplit
    cases hdropped : uri.toList.dropWhile (· ≠ ':') with
    | nil =>
      rw [hdropped, List.append_nil] at hsplit
      exact absurd (hsplit ▸ hmem) hscheme.colon_not_mem
    | cons c rest =>
      have hc := List.head?_dropWhile_not (· ≠ ':') uri.toList
      rw [hdropped] at hc
      have hcolon : c = ':' := by simpa using hc
      exact ⟨rest, by rw [← hsplit, hdropped, hcolon]⟩

/-- A URI has one scheme at most. -/
theorem HasScheme.unique {other : List Char} (h : HasScheme uri scheme)
    (h' : HasScheme uri other) : other = scheme :=
  (hasScheme_iff.1 h').2.2.symm.trans (hasScheme_iff.1 h).2.2

/-- A root marker begins no scheme. -/
theorem HasScheme.not_isRooted (h : HasScheme uri scheme) : ¬IsRooted uri := by
  obtain ⟨⟨letter, more, rfl, hletter, -⟩, rest, huri⟩ := h
  rw [IsRooted, huri]
  rintro (hroot | hroot) <;> cases hroot <;> exact absurd hletter (by decide)

/-- Full locators begin with a root marker or with a scheme. -/
theorem isAbsolute_iff (uri : String) :
    Template.isAbsolute uri = true ↔ IsRooted uri ∨ ∃ scheme, HasScheme uri scheme := by
  cases hcs : uri.toList with
  | nil => simp [Template.isAbsolute, IsRooted, HasScheme, hcs]
  | cons c cs =>
    have hscheme : (∃ scheme, HasScheme uri scheme) ↔
        ':' ∈ uri.toList ∧ IsScheme (uri.toList.takeWhile (· ≠ ':')) := by
      constructor
      · rintro ⟨scheme, h⟩
        obtain ⟨h, hmem, rfl⟩ := hasScheme_iff.1 h
        exact ⟨hmem, h⟩
      · rintro ⟨hmem, h⟩
        exact ⟨_, hasScheme_iff.2 ⟨h, hmem, rfl⟩⟩
    rw [Template.isAbsolute_eq hcs, hscheme, ← isScheme_eq_true_iff, hcs]
    simp [IsRooted, hcs]

/-- A drive letter is a scheme of one letter. -/
theorem hasDrive_iff (uri : String) :
    hasDrive uri = true ↔ ∃ letter, HasScheme uri [letter] := by
  rw [hasDrive]
  constructor
  · intro h
    split at h
    · rename_i letter rest heq
      exact ⟨letter, ⟨letter, [], rfl, h, by simp⟩, rest, heq⟩
    · cases h
  · rintro ⟨letter, ⟨_, _, heq, hletter, -⟩, rest, huri⟩
    cases heq
    rw [huri]
    exact hletter

/-! ## Beginnings -/

theorem begins_iff (uri beginning : String) :
    Text.begins uri beginning = true ↔ ∃ rest, uri = beginning ++ rest := by
  constructor
  · intro h
    exact ⟨_, (Text.append_behind h).symm⟩
  · rintro ⟨rest, rfl⟩
    rw [Text.begins, String.toList_append, List.isPrefixOf_iff_prefix]
    exact List.prefix_append _ _

@[simp] theorem behind_append (beginning rest : String) :
    Text.behind (beginning ++ rest) beginning = rest := by
  simp [Text.behind]

/-- What begins with `file:` has the scheme `file`. -/
theorem hasScheme_file (rest : String) : HasScheme ("file:" ++ rest) "file".toList := by
  refine ⟨(isScheme_eq_true_iff _).1 (by decide), rest.toList, ?_⟩
  rw [String.toList_append]
  rfl

theorem hasScheme_authority (path : String) : HasScheme ("file://" ++ path) "file".toList := by
  rw [show "file://" = "file:" ++ "//" from rfl, String.append_assoc]
  exact hasScheme_file _

/-! ## What URIs spell -/

/-- What a URI says of its file, by its form alone. -/
inductive Spells (uri : String) : Option String → Prop where
  /-- The path stands behind `file://`. -/
  | authority {path : String} (h : uri = "file://" ++ path) : Spells uri (some path)
  /-- The path stands behind `file:`. -/
  | file {path : String} (h : uri = "file:" ++ path) (hpath : Text.begins path "//" = false) :
      Spells uri (some path)
  /-- Behind any other scheme there is no file, unless it is a drive letter. -/
  | foreign {scheme : List Char} (h : HasScheme uri scheme) (hfile : scheme ≠ "file".toList)
      (hdrive : scheme.length ≠ 1) : Spells uri none
  /-- Any other URI is a path. -/
  | plain (h : ∀ scheme, HasScheme uri scheme → scheme.length = 1) : Spells uri (some uri)

/-- A URI is of one of three forms. -/
theorem form_cases (uri : String) :
    (∃ rest, uri = "file:" ++ rest) ∨
      (∃ scheme, HasScheme uri scheme ∧ scheme ≠ "file".toList ∧ scheme.length ≠ 1) ∨
      ∀ scheme, HasScheme uri scheme → scheme.length = 1 := by
  by_cases hplain : ∀ scheme, HasScheme uri scheme → scheme.length = 1
  · exact Or.inr (Or.inr hplain)
  · push Not at hplain
    obtain ⟨scheme, hscheme, hdrive⟩ := hplain
    by_cases hfile : scheme = "file".toList
    · obtain ⟨-, rest, hrest⟩ := hscheme
      have hpath : (String.ofList rest).toList = rest := String.toList_ofList
      refine Or.inl ⟨String.ofList rest, String.toList_inj.1 ?_⟩
      rw [hrest, hfile, List.append_cons, String.toList_append, hpath]
      rfl
    · exact Or.inr (Or.inl ⟨scheme, hscheme, hfile, hdrive⟩)

section Forms

variable {path? : Option String}

/-- What stands behind `file:`, and behind `//` after it if that is there. -/
theorem spells_file_iff (rest : String) :
    Spells ("file:" ++ rest) path? ↔
      path? = some (if Text.begins rest "//" = true then Text.behind rest "//" else rest) := by
  have hsame : ∀ path : String, "file:" ++ rest = "file://" ++ path ↔ rest = "//" ++ path := by
    intro path
    rw [show "file://" = "file:" ++ "//" from rfl, String.append_assoc]
    exact String.append_right_inj _
  constructor
  · intro h
    cases h with
    | authority h =>
      rw [(hsame _).1 h, if_pos ((begins_iff _ _).2 ⟨_, rfl⟩), behind_append]
    | file h hpath =>
      rw [(String.append_right_inj _).1 h, hpath]
      rfl
    | foreign h hfile => exact absurd (h.unique (hasScheme_file rest)).symm hfile
    | plain h => exact absurd (h _ (hasScheme_file rest)) (by decide)
  · rintro rfl
    split
    · rename_i hslashes
      exact .authority ((hsame _).2 (Text.append_behind hslashes).symm)
    · rename_i hslashes
      exact .file rfl (Bool.eq_false_iff.2 hslashes)

/-- Behind a scheme of its own there is no file. -/
theorem spells_foreign_iff (h : HasScheme uri scheme) (hfile : scheme ≠ "file".toList)
    (hdrive : scheme.length ≠ 1) : Spells uri path? ↔ path? = none := by
  constructor
  · intro hspells
    cases hspells with
    | authority heq =>
      rw [heq] at h
      exact absurd (h.unique (hasScheme_authority _)).symm hfile
    | file heq =>
      rw [heq] at h
      exact absurd (h.unique (hasScheme_file _)).symm hfile
    | foreign => rfl
    | plain hplain => exact absurd (hplain scheme h) hdrive
  · rintro rfl
    exact .foreign h hfile hdrive

/-- A URI without a scheme is the path itself, and so is one with a drive letter. -/
theorem spells_plain_iff (h : ∀ scheme, HasScheme uri scheme → scheme.length = 1) :
    Spells uri path? ↔ path? = some uri := by
  constructor
  · intro hspells
    cases hspells with
    | authority heq =>
      rw [heq] at h
      exact absurd (h _ (hasScheme_authority _)) (by decide)
    | file heq =>
      rw [heq] at h
      exact absurd (h _ (hasScheme_file _)) (by decide)
    | foreign hscheme _ hdrive => exact absurd (h _ hscheme) hdrive
    | plain => rfl
  · rintro rfl
    exact .plain h

end Forms

/-- Every URI spells one answer and no other. -/
theorem existsUnique_spells (uri : String) : ∃! path?, Spells uri path? := by
  rcases form_cases uri with ⟨rest, rfl⟩ | ⟨scheme, h, hfile, hdrive⟩ | h
  · exact ⟨_, (spells_file_iff rest).2 rfl, fun _ => (spells_file_iff rest).1⟩
  · exact ⟨_, (spells_foreign_iff h hfile hdrive).2 rfl,
      fun _ => (spells_foreign_iff h hfile hdrive).1⟩
  · exact ⟨_, (spells_plain_iff h).2 rfl, fun _ => (spells_plain_iff h).1⟩

/-! ## Locating -/

section Unmatched

variable {roots : Roots} (hroots : ∀ beginning ∈ roots.keys, ¬beginning.toList <+: uri.toList)

include hroots

theorem rootOf?_of_unmatched : rootOf? roots uri = none := by
  have hnone : (roots.entries.filter fun root => Text.begins uri root.1) = [] := by
    apply List.filter_eq_nil_iff.2
    intro root hroot hbegins
    exact hroots root.1 (List.mem_map_of_mem hroot) (List.isPrefixOf_iff_prefix.1 hbegins)
  rw [rootOf?, hnone]
  rfl

theorem locate?_file {rest : String} (huri : uri = "file:" ++ rest) :
    locate? roots uri =
      some (if Text.begins rest "//" = true then Text.behind rest "//" else rest) := by
  rw [locate?, rootOf?_of_unmatched hroots]
  dsimp only
  subst huri
  have hsame : Text.begins ("file:" ++ rest) "file://" = Text.begins rest "//" := by
    simp [Text.begins]
  by_cases hslashes : Text.begins rest "//" = true
  · rw [hsame, if_pos hslashes, if_pos hslashes]
    simp [Text.behind]
  · rw [hsame, if_neg hslashes, if_neg hslashes, if_pos ((begins_iff _ _).2 ⟨rest, rfl⟩),
      behind_append]

/-- Without `file:`, a full locator with a colon has no file behind it, unless it is on a
drive. -/
theorem locate?_of_not_file (hfile : ¬HasScheme uri "file".toList) :
    locate? roots uri =
      if Template.isAbsolute uri = true ∧ ':' ∈ uri.toList ∧ hasDrive uri = false then none
      else some uri := by
  have hfirst : ¬Text.begins uri "file://" = true := by
    rintro h
    obtain ⟨path, rfl⟩ := (begins_iff _ _).1 h
    exact hfile (hasScheme_authority _)
  have hsecond : ¬Text.begins uri "file:" = true := by
    rintro h
    obtain ⟨path, rfl⟩ := (begins_iff _ _).1 h
    exact hfile (hasScheme_file _)
  rw [locate?, rootOf?_of_unmatched hroots]
  dsimp only
  rw [if_neg hfirst, if_neg hsecond]
  simp [and_assoc]

/-- A rooted path with a colon in it is taken for a locator with a scheme. -/
theorem locate?_of_rooted (hroot : IsRooted uri) (hcolon : ':' ∈ uri.toList) :
    locate? roots uri = none := by
  rw [locate?_of_not_file hroots fun h => h.not_isRooted hroot, if_pos]
  refine ⟨(isAbsolute_iff uri).2 (Or.inl hroot), hcolon, Bool.eq_false_iff.2 fun hdrive => ?_⟩
  obtain ⟨letter, h⟩ := (hasDrive_iff uri).1 hdrive
  exact h.not_isRooted hroot

theorem locate?_of_foreign (h : HasScheme uri scheme) (hfile : scheme ≠ "file".toList)
    (hdrive : scheme.length ≠ 1) : locate? roots uri = none := by
  have hnot : ¬HasScheme uri "file".toList := fun h' => hfile (h'.unique h)
  rw [locate?_of_not_file hroots hnot, if_pos]
  refine ⟨(isAbsolute_iff uri).2 (Or.inr ⟨scheme, h⟩), (hasScheme_iff.1 h).2.1,
    Bool.eq_false_iff.2 fun hletter => ?_⟩
  obtain ⟨letter, h'⟩ := (hasDrive_iff uri).1 hletter
  rw [h'.unique h] at hdrive
  exact hdrive rfl

theorem locate?_of_plain (h : ∀ scheme, HasScheme uri scheme → scheme.length = 1)
    (hfree : ¬(IsRooted uri ∧ ':' ∈ uri.toList)) : locate? roots uri = some uri := by
  have hnot : ¬HasScheme uri "file".toList := fun h' => absurd (h _ h') (by decide)
  rw [locate?_of_not_file hroots hnot, if_neg]
  rintro ⟨habsolute, hcolon, hdrive⟩
  rcases (isAbsolute_iff uri).1 habsolute with hroot | ⟨scheme, hscheme⟩
  · exact hfree ⟨hroot, hcolon⟩
  · obtain ⟨letter, rfl⟩ := List.length_eq_one_iff.1 (h scheme hscheme)
    exact absurd ((hasDrive_iff uri).2 ⟨letter, hscheme⟩) (Bool.eq_false_iff.1 hdrive)

end Unmatched

/-- Locating a URI that no root maps gives what the URI spells, unless it is a rooted path with
a colon in it. Every URI spells one answer. Nothing is located for exactly the URIs with a scheme
of their own and the rooted paths with a colon, though these spell themselves. -/
theorem located_as_spelled_iff (roots : Roots) (uri : String)
    (hroots : ∀ beginning ∈ roots.keys, ¬beginning.toList <+: uri.toList) :
    (∃! path?, Spells uri path?) ∧
      (Spells uri (locate? roots uri) ↔ ¬(IsRooted uri ∧ ':' ∈ uri.toList)) ∧
      (locate? roots uri = none ↔
        (∃ scheme, HasScheme uri scheme ∧ scheme ≠ "file".toList ∧ scheme.length ≠ 1) ∨
          (IsRooted uri ∧ ':' ∈ uri.toList)) ∧
      (IsRooted uri → Spells uri (some uri)) := by
  have hplain : IsRooted uri → ∀ scheme, HasScheme uri scheme → scheme.length = 1 :=
    fun hroot scheme h => absurd hroot h.not_isRooted
  refine ⟨existsUnique_spells uri, ?_, ?_, fun hroot => .plain (hplain hroot)⟩
  · by_cases hmistaken : IsRooted uri ∧ ':' ∈ uri.toList
    · -- nothing is located, but a rooted path spells itself
      obtain ⟨hroot, hcolon⟩ := hmistaken
      rw [locate?_of_rooted hroots hroot hcolon, spells_plain_iff (hplain hroot)]
      simp [hroot, hcolon]
    · refine iff_of_true ?_ hmistaken
      rcases form_cases uri with ⟨rest, huri⟩ | ⟨scheme, h, hfile, hdrive⟩ | h
      · rw [locate?_file hroots huri, huri]
        exact (spells_file_iff rest).2 rfl
      · rw [locate?_of_foreign hroots h hfile hdrive]
        exact .foreign h hfile hdrive
      · rw [locate?_of_plain hroots h hmistaken]
        exact .plain h
  · constructor
    · intro hnone
      rcases form_cases uri with ⟨rest, huri⟩ | hforeign | h
      · rw [locate?_file hroots huri] at hnone
        cases hnone
      · exact Or.inl hforeign
      · by_contra hnot
        rw [locate?_of_plain hroots h fun hmistaken => hnot (Or.inr hmistaken)] at hnone
        cases hnone
    · rintro (⟨scheme, h, hfile, hdrive⟩ | ⟨hroot, hcolon⟩)
      · exact locate?_of_foreign hroots h hfile hdrive
      · exact locate?_of_rooted hroots hroot hcolon

/-- Under a root for resources, a path on a drive is located and a rooted path with a colon is
not. -/
theorem located_as_spelled_of_drive :
    let roots : Roots := Assoc.empty.insert "qrc:/" "/srv"
    (∀ beginning ∈ roots.keys, ¬beginning.toList <+: "C:/a:b".toList) ∧
      Spells "C:/a:b" (locate? roots "C:/a:b") ∧
      (∀ beginning ∈ roots.keys, ¬beginning.toList <+: "/a:b".toList) ∧
      locate? roots "/a:b" = none := by
  intro roots
  have hdrive : ∀ beginning ∈ roots.keys, ¬beginning.toList <+: "C:/a:b".toList := by decide
  have hrooted : ∀ beginning ∈ roots.keys, ¬beginning.toList <+: "/a:b".toList := by decide
  obtain ⟨-, hspells, -⟩ := located_as_spelled_iff roots "C:/a:b" hdrive
  obtain ⟨-, -, hnone, -⟩ := located_as_spelled_iff roots "/a:b" hrooted
  refine ⟨hdrive, hspells.2 ?_, hrooted, hnone.2 (Or.inr ?_)⟩
  · rintro ⟨hroot | hroot, -⟩ <;> exact absurd hroot (by decide)
  · exact ⟨Or.inl (by decide), by decide⟩

/-- A rooted path with a colon in it is not located, although it spells its file. -/
theorem unlocated_of_colon_in_path :
    locate? .empty "/a:b" = none ∧ Spells "/a:b" (some "/a:b") ∧
      ¬Spells "/a:b" (locate? .empty "/a:b") := by
  have hplain : ∀ scheme, HasScheme "/a:b" scheme → scheme.length = 1 :=
    fun scheme h => absurd (Or.inl (by decide)) h.not_isRooted
  have hnone : locate? .empty "/a:b" = none := by decide
  refine ⟨hnone, .plain hplain, ?_⟩
  rw [hnone, spells_plain_iff hplain]
  exact nofun

end SceneFactory.Markup
