import BuilderAudit.Source
import BuilderAudit.Proofs.Text.Lines
import BuilderAudit.Proofs.Text.Trim

/-!
# The package that a text declares

A package declaration is a line with the word `package` at its start, white space, a name, and at most one semicolon.
The package of a text is the name in its first declaration; other lines that start with the word are passed over.

* `Declares` : the grammar of declarations (`packageOfLine?_eq_some_iff`: the name that is read is the one declared);
* `DeclaresNothing` : the lines that start with the word and declare nothing (`declaresNothing_iff`);
* `package_declared` : the package of a text (`SourceFile.NamesPackage`);
* `package_semicolon` : the first semicolon of a line ends the name only if nothing but white space follows.
-/

namespace BuilderAudit

open Text

namespace SourceFile

variable {line rest name before between behind : List Char} {path : Path} {content : List Char}

/-! ## Declarations -/

/-- The line declares the package `name`. The name has no white space at its ends, and it ends with a semicolon only if
there is another one behind it. -/
inductive Declares (name : List Char) : List Char → Prop
  | ended {before between behind : List Char} (opens : before ≠ []) (blanks : Blanks before) (solid : Solid name)
    (spaced : Blanks between) (padded : Blanks behind) :
    Declares name ("package".toList ++ (before ++ (name ++ (between ++ ';' :: behind))))
  | unended {before behind : List Char} (opens : before ≠ []) (blanks : Blanks before) (solid : Solid name)
    (padded : Blanks behind) (last : name.getLast? ≠ some ';') :
    Declares name ("package".toList ++ (before ++ (name ++ behind)))

def IsDeclaration (line : List Char) : Prop := ∃ name, Declares name line

/-- The line starts with the word `package`, and white space follows the word. -/
def OpensPackage (line : List Char) : Prop := ∃ c rest, line = "package".toList ++ c :: rest ∧ isBlank c = true

/-- The line starts with the word `package` but declares nothing: no white space follows the word, or there is only
white space up to the semicolon. -/
inductive DeclaresNothing : List Char → Prop
  | unparted {c : Char} {rest : List Char} (h : isBlank c = false) : DeclaresNothing ("package".toList ++ c :: rest)
  | unended {blanks : List Char} (h : Blanks blanks) : DeclaresNothing ("package".toList ++ blanks)
  | ended {before behind : List Char} (blanks : Blanks before) (padded : Blanks behind) :
    DeclaresNothing ("package".toList ++ (before ++ ';' :: behind))

/-! ## Reading a line -/

def withoutSemicolon (cs : List Char) : List Char := if cs.getLast? = some ';' then cs.dropLast else cs

@[simp] theorem withoutSemicolon_concat (cs : List Char) : withoutSemicolon (cs ++ [';']) = cs := by
  simp [withoutSemicolon]

theorem withoutSemicolon_of_getLast? {cs : List Char} (h : cs.getLast? ≠ some ';') : withoutSemicolon cs = cs :=
  if_neg h

/-- The name that is read in what follows the word. -/
def nameIn (rest : List Char) : List Char := trim (withoutSemicolon (trim rest))

/-- What is read behind the word and white space. -/
theorem packageOfLine?_of_blank {c : Char} (hc : isBlank c = true) (rest : List Char) :
    packageOfLine? ("package".toList ++ c :: rest) =
      if nameIn (c :: rest) = [] then none else some (nameIn (c :: rest)) := by
  rw [packageOfLine?, stripStart?_append]
  show (if (!isBlank c) = true then none
    else if (nameIn (c :: rest)).isEmpty then none else some (nameIn (c :: rest))) = _
  simp [hc]

theorem packageOfLine?_of_not_blank {c : Char} (hc : isBlank c = false) (rest : List Char) :
    packageOfLine? ("package".toList ++ c :: rest) = none := by
  rw [packageOfLine?, stripStart?_append]
  show (if (!isBlank c) = true then none else _) = _
  rw [hc]
  rfl

theorem exists_of_packageOfLine? (h : packageOfLine? line = some name) : ∃ rest, line = "package".toList ++ rest := by
  rw [packageOfLine?, Option.bind_eq_bind, Option.bind_eq_some_iff] at h
  obtain ⟨rest, hrest, -⟩ := h
  exact ⟨rest, stripStart?_eq_some_iff.mp hrest⟩

theorem nameIn_of_blanks (h : Blanks rest) : nameIn rest = [] := by
  rw [nameIn, trim_of_blanks h]
  rfl

/-- White space is left out in front of a semicolon only where the text starts, and behind it only where the text
ends. -/
theorem trim_semicolon (front back : List Char) :
    trim (front ++ ';' :: back) = trimStart front ++ ';' :: trimEnd back := by
  have hsemicolon : isBlank ';' = false := by decide
  rw [trim, trimStart_append_cons hsemicolon, trimEnd_append_cons hsemicolon]

/-- A semicolon at the end is left out. -/
theorem nameIn_cut (padded : Blanks behind) (front : List Char) : nameIn (front ++ ';' :: behind) = trim front := by
  rw [nameIn, trim_semicolon, trimEnd_eq_nil_iff.mpr padded, withoutSemicolon_concat, trim, trimStart_trimStart, trim]

theorem nameIn_ended (blanks : Blanks before) (solid : Solid name) (spaced : Blanks between) (padded : Blanks behind) :
    nameIn (before ++ (name ++ (between ++ ';' :: behind))) = name := by
  have hcut := nameIn_cut padded (before ++ (name ++ between))
  rw [trim_padded blanks solid spaced] at hcut
  simpa using hcut

theorem nameIn_unended (blanks : Blanks before) (solid : Solid name) (padded : Blanks behind)
    (last : name.getLast? ≠ some ';') : nameIn (before ++ (name ++ behind)) = name := by
  rw [nameIn, trim_padded blanks solid padded, withoutSemicolon_of_getLast? last, solid.trim_eq]

/-! ## The grammar -/

theorem opensPackage_of_blanks (opens : before ≠ []) (blanks : Blanks before) (rest : List Char) :
    OpensPackage ("package".toList ++ (before ++ rest)) := by
  obtain ⟨c, before, rfl⟩ := List.exists_cons_of_ne_nil opens
  exact ⟨c, before ++ rest, rfl, blanks c List.mem_cons_self⟩

theorem IsDeclaration.opensPackage (h : IsDeclaration line) : OpensPackage line := by
  obtain ⟨name, h⟩ := h
  cases h with
  | ended opens blanks => exact opensPackage_of_blanks opens blanks _
  | unended opens blanks => exact opensPackage_of_blanks opens blanks _

theorem packageOfLine?_of_opensPackage (h : OpensPackage ("package".toList ++ rest)) (hname : nameIn rest = name)
    (hne : name ≠ []) : packageOfLine? ("package".toList ++ rest) = some name := by
  obtain ⟨c, rest', heq, hc⟩ := h
  obtain rfl := List.append_cancel_left heq
  rw [packageOfLine?_of_blank hc, hname, if_neg hne]

theorem packageOfLine?_of_declares (h : Declares name line) : packageOfLine? line = some name := by
  cases h with
  | ended opens blanks solid spaced padded =>
      have hname := nameIn_ended blanks solid spaced padded
      exact packageOfLine?_of_opensPackage (opensPackage_of_blanks opens blanks _) hname solid.ne_nil
  | unended opens blanks solid padded last =>
      have hname := nameIn_unended blanks solid padded last
      exact packageOfLine?_of_opensPackage (opensPackage_of_blanks opens blanks _) hname solid.ne_nil

theorem packageOfLine?_of_nameIn_eq_nil (h : nameIn rest = []) : packageOfLine? ("package".toList ++ rest) = none := by
  cases rest with
  | nil => rfl
  | cons c rest =>
      cases hc : isBlank c with
      | true => rw [packageOfLine?_of_blank hc, if_pos h]
      | false => exact packageOfLine?_of_not_blank hc rest

theorem packageOfLine?_of_declaresNothing (h : DeclaresNothing line) : packageOfLine? line = none := by
  cases h with
  | unparted h => exact packageOfLine?_of_not_blank h _
  | unended h => exact packageOfLine?_of_nameIn_eq_nil (nameIn_of_blanks h)
  | ended blanks padded => exact packageOfLine?_of_nameIn_eq_nil ((nameIn_cut padded _).trans (trim_of_blanks blanks))

/-- A line that starts with the word is a declaration or declares nothing. -/
theorem isDeclaration_or_declaresNothing (rest : List Char) :
    IsDeclaration ("package".toList ++ rest) ∨ DeclaresNothing ("package".toList ++ rest) := by
  cases rest with
  | nil => exact Or.inr (.unended .nil)
  | cons c rest =>
      cases hc : isBlank c with
      | false => exact Or.inr (.unparted hc)
      | true =>
          rcases blanks_or_padded rest with hblanks | ⟨before, core, behind, rfl, hbefore, hcore, hbehind⟩
          · exact Or.inr (.unended (hblanks.cons hc))
          by_cases hlast : core.getLast? = some ';'
          · obtain ⟨init, rfl⟩ := List.getLast?_eq_some_iff.mp hlast
            rcases blanks_or_padded init with hinit | ⟨more, name, between, rfl, hmore, hname, hbetween⟩
            · right
              simpa using DeclaresNothing.ended ((hbefore.cons hc).append hinit) hbehind
            · left
              refine ⟨name, ?_⟩
              have hdeclares := Declares.ended (by simp) ((hbefore.cons hc).append hmore) hname hbetween hbehind
              simpa using hdeclares
          · exact Or.inl ⟨core, Declares.unended (by simp) (hbefore.cons hc) hcore hbehind hlast⟩

/-- **The name that is read from a line is the one that it declares.** -/
theorem packageOfLine?_eq_some_iff : packageOfLine? line = some name ↔ Declares name line := by
  refine ⟨fun h => ?_, packageOfLine?_of_declares⟩
  obtain ⟨rest, rfl⟩ := exists_of_packageOfLine? h
  rcases isDeclaration_or_declaresNothing rest with ⟨name', hdeclares⟩ | hnothing
  · have hsame := (packageOfLine?_of_declares hdeclares).symm.trans h
    exact Option.some.inj hsame ▸ hdeclares
  · rw [packageOfLine?_of_declaresNothing hnothing] at h
    cases h

theorem packageOfLine?_eq_none_iff : packageOfLine? line = none ↔ ¬ IsDeclaration line := by
  rw [IsDeclaration, Option.eq_none_iff_forall_ne_some, not_exists]
  exact forall_congr' fun name => not_congr packageOfLine?_eq_some_iff

theorem declaresNothing_iff (rest : List Char) :
    DeclaresNothing ("package".toList ++ rest) ↔ ¬ IsDeclaration ("package".toList ++ rest) :=
  ⟨fun h => packageOfLine?_eq_none_iff.mp (packageOfLine?_of_declaresNothing h),
    (isDeclaration_or_declaresNothing rest).resolve_left⟩

/-! ## The first declaration -/

theorem packageName?_ofContent (path : Path) (content : List Char) :
    (ofContent path content).packageName? = ((Text.lines content).findSome? packageOfLine?).map String.ofList := by
  rw [packageName?, ofContent, List.findSome?_map]
  simp only [Function.comp_def, String.toList_ofList]

/-- The package of a text is the name in its first declaration. -/
theorem packageName?_ofContent_eq_some_iff :
    (ofContent path content).packageName? = some (String.ofList name) ↔
      ∃ line, FirstLine IsDeclaration content line ∧ Declares name line := by
  rw [packageName?_ofContent, Option.map_eq_some_iff]
  simp only [String.ofList_inj, exists_eq_right, List.findSome?_eq_some_iff, firstLine_iff]
  constructor
  · rintro ⟨front, line, back, hlines, hline, hfront⟩
    have hdeclares := packageOfLine?_eq_some_iff.mp hline
    exact ⟨line, ⟨front, back, hlines, ⟨name, hdeclares⟩, fun line' hline' =>
      packageOfLine?_eq_none_iff.mp (hfront line' hline')⟩, hdeclares⟩
  · rintro ⟨line, ⟨front, back, hlines, -, hfront⟩, hdeclares⟩
    exact ⟨front, line, back, hlines, packageOfLine?_of_declares hdeclares, fun line' hline' =>
      packageOfLine?_eq_none_iff.mpr (hfront line' hline')⟩

/-- A line that is no declaration is passed over. -/
theorem packageName?_passed {front back : List String} {passed : String} (h : ¬ IsDeclaration passed.toList) :
    packageName? ⟨path, front ++ passed :: back⟩ = packageName? ⟨path, front ++ back⟩ := by
  rw [packageName?, packageName?, List.findSome?_append, List.findSome?_append, List.findSome?_cons,
    packageOfLine?_eq_none_iff.mpr h]

/-- How the package of a text is found. -/
structure NamesPackage (path : Path) (content : List Char) : Prop where
  /-- It is the name in the first declaration. -/
  found : ∀ name : String, (ofContent path content).packageName? = some name ↔
    ∃ line, FirstLine IsDeclaration content line ∧ Declares name.toList line
  /-- A line that starts with the word is no declaration in these cases only. -/
  nothing : ∀ rest, ¬ IsDeclaration ("package".toList ++ rest) ↔ DeclaresNothing ("package".toList ++ rest)
  /-- Without a line that is no declaration the package is the same. -/
  passed : ∀ front line back, (ofContent path content).lines = front ++ line :: back → ¬ IsDeclaration line.toList →
    (ofContent path content).packageName? = packageName? ⟨path, front ++ back⟩

/-- **The package of a text is the name in its first declaration, and no other line stops the search.** -/
theorem package_declared (path : Path) (content : List Char) : NamesPackage path content where
  found name := by
    have hfound : (ofContent path content).packageName? = some (String.ofList name.toList) ↔ _ :=
      packageName?_ofContent_eq_some_iff
    rwa [String.ofList_toList] at hfound
  nothing rest := (declaresNothing_iff rest).symm
  passed front line back hlines hline := by
    rw [← packageName?_passed hline, ← hlines]
    rfl

/-! ## What is behind a semicolon -/

theorem withoutSemicolon_append_cons {c : Char} {back : List Char} (front : List Char) (h : back ≠ []) :
    withoutSemicolon (front ++ c :: back) = front ++ c :: withoutSemicolon back := by
  rw [List.append_cons]
  simp only [withoutSemicolon, List.getLast?_append_of_ne_nil _ h, List.dropLast_append_of_ne_nil h]
  split <;> simp

/-- A semicolon with more than white space behind it is kept, and so is what is behind it. -/
theorem nameIn_kept {back : List Char} (h : ¬ Blanks back) (front : List Char) :
    nameIn (front ++ ';' :: back) = trimStart front ++ ';' :: trimEnd (withoutSemicolon (trimEnd back)) := by
  have hback : trimEnd back ≠ [] := trimEnd_eq_nil_iff.not.mpr h
  rw [nameIn, trim_semicolon, withoutSemicolon_append_cons _ hback, trim_semicolon, trimStart_trimStart]

/-- A line that opens a declaration declares what is read behind the word, if anything is. -/
theorem packageName?_of_firstLine (hfirst : FirstLine OpensPackage content ("package".toList ++ rest))
    (hname : nameIn rest = name) (hne : name ≠ []) (path : Path) :
    (ofContent path content).packageName? = some (String.ofList name) := by
  have hdeclares := packageOfLine?_eq_some_iff.mp (packageOfLine?_of_opensPackage hfirst.holds hname hne)
  exact packageName?_ofContent_eq_some_iff.mpr
    ⟨_, hfirst.mono (fun _ => IsDeclaration.opensPackage) ⟨_, hdeclares⟩, hdeclares⟩

/-- **The first semicolon ends the name if only white space follows. Otherwise it is part of the name, with what is
behind it, and only a semicolon at the end of the line is left out.** -/
theorem package_semicolon {between after : List Char}
    (hfirst : FirstLine OpensPackage content ("package".toList ++ (between ++ ';' :: after)))
    (hbetween : ¬ Blanks between) (hsemicolon : ';' ∉ between) (path : Path) :
    ∃ name, (ofContent path content).packageName? = some (String.ofList name) ∧
      (Blanks after → name = trim between) ∧
      (¬ Blanks after → name = trimStart between ++ ';' :: trimEnd (withoutSemicolon (trimEnd after))) ∧
      (';' ∈ name ↔ ¬ Blanks after) := by
  by_cases hafter : Blanks after
  · have hpackage := packageName?_of_firstLine hfirst (nameIn_cut hafter between) (trim_ne_nil hbetween) path
    have hcut : ';' ∉ trim between := fun h => hsemicolon (mem_of_mem_trim h)
    exact ⟨_, hpackage, fun _ => rfl, fun h => absurd hafter h, iff_of_false hcut (not_not.mpr hafter)⟩
  · have hpackage := packageName?_of_firstLine hfirst (nameIn_kept hafter between) (by simp) path
    exact ⟨_, hpackage, fun h => absurd h hafter, fun _ => rfl, iff_of_true (by simp) hafter⟩

/-- A declaration with a comment behind its semicolon. -/
def sampleCommented : List Char := "packages;\npackage a.b ; // c;\n".toList

theorem sampleCommented_first :
    FirstLine OpensPackage sampleCommented ("package".toList ++ (" a.b ".toList ++ ';' :: " // c;".toList)) := by
  refine firstLine_iff.mpr ⟨["packages;".toList], [], by decide, ⟨' ', _, rfl, by decide⟩, ?_⟩
  rintro line hline ⟨c, rest, heq, hc⟩
  obtain rfl := List.mem_singleton.mp hline
  obtain ⟨rfl, rfl⟩ : 's' = c ∧ [';'] = rest := by simpa using heq
  exact absurd hc (by decide)

/-- The comment is taken for a part of the name, without the semicolon at its end. -/
theorem sampleCommented_package :
    ¬ Blanks " a.b ".toList ∧ ';' ∉ " a.b ".toList ∧ ¬ Blanks " // c;".toList ∧
      (ofContent ⟨[0x61]⟩ sampleCommented).packageName? = some "a.b ; // c" := by
  have hbetween : ¬ Blanks " a.b ".toList := by decide
  have hsemicolon : ';' ∉ " a.b ".toList := by decide
  have hafter : ¬ Blanks " // c;".toList := by decide
  obtain ⟨name, hname, -, hkept, -⟩ := package_semicolon sampleCommented_first hbetween hsemicolon ⟨[0x61]⟩
  refine ⟨hbetween, hsemicolon, hafter, ?_⟩
  rw [hname, hkept hafter]
  decide

/-- It is not always the text in front of the first semicolon that is the name. -/
theorem semicolon_not_final :
    ¬ ∀ (path : Path) (content between after : List Char), ¬ Blanks between → ';' ∉ between →
      FirstLine OpensPackage content ("package".toList ++ (between ++ ';' :: after)) →
      (ofContent path content).packageName? = some (String.ofList (trim between)) := by
  intro h
  have hcut := h ⟨[0x61]⟩ sampleCommented _ _ (by decide) (by decide) sampleCommented_first
  exact absurd hcut (by decide)

end SourceFile

end BuilderAudit
