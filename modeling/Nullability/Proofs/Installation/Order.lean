import Nullability.Proofs.Installation.Listing
import Nullability.Proofs.Installation.Stability
import Nullability.Proofs.Sorting

/-!
# Installations and their order

Which folders belong to an installation is told by their names and places (`Installed`), and which
of two comes first by category, scope, version and name (`Precedes`). The candidates of a search keep
the order of the names that are listed, whatever the order in which the system lists them.
-/

namespace Nullability

lemma Text.length_le_of_mem_split {separator : Char} {s part : String}
    (h : part ∈ Text.split separator s) : part.length ≤ s.length := by
  have hchars : ∀ (cs part : List Char), part ∈ splitChars separator cs →
      part.length ≤ cs.length := by
    intro cs
    induction cs with
    | nil =>
      intro part hpart
      rw [List.mem_singleton.1 hpart]
    | cons c rest ih =>
      intro part hpart
      obtain ⟨first, parts, hrest⟩ := exists_splitChars separator rest
      rw [hrest] at ih
      by_cases hc : c = separator
      · rw [hc, splitChars_separator, hrest] at hpart
        cases List.mem_cons.1 hpart with
        | inl hpart => rw [hpart]; exact Nat.zero_le _
        | inr hpart => exact (ih part hpart).trans (Nat.le_succ _)
      · rw [splitChars_of_ne hc hrest] at hpart
        cases List.mem_cons.1 hpart with
        | inl hpart =>
          rw [hpart]
          exact Nat.succ_le_succ (ih first List.mem_cons_self)
        | inr hpart => exact (ih part (List.mem_cons_of_mem first hpart)).trans (Nat.le_succ _)
  obtain ⟨cs, hcs, rfl⟩ := List.mem_map.1 h
  rw [String.length_ofList, ← String.length_toList]
  exact hchars _ cs hcs

namespace Installation

open FileTree

variable {tree other : FileTree} {folder : Path} {locations : Locations}
  {settings : ScannerSettings} {name : String} {a b installation : Installation}

/-! ## Installations -/

/-- The name of the folder that is there for one version. -/
def ownName (installation : Installation) : String :=
  match installation.scope with
  | .package => installation.path.parent.parent.name
  | _ => installation.path.parent.name

/-- Whether a folder is scanned before another one. -/
def Precedes (a b : Installation) : Prop :=
  a.category.rank < b.category.rank ∨ a.category = b.category ∧
    (a.scope.rank < b.scope.rank ∨ a.scope = b.scope ∧
      (a.version < b.version ∨ a.version = b.version ∧ a.ownName < b.ownName))

/-- Whether a platform's folder may have a name: the version stands behind the fixed start, in two
digits. -/
def TellsPlatform (start name : String) (version : Nat) : Prop :=
  ∃ tens ones rest, name.toList = start.toList ++ tens :: ones :: rest ∧
    Text.isDecimal tens = true ∧ Text.isDecimal ones = true ∧
    version = Text.decimalNumber [tens, ones]

/-- The root below which the platforms of a scope are. -/
def platformRoot? (locations : Locations) : Scope → Option String
  | .system => some locations.systemRoot
  | .user => some locations.userRoot
  | .package => none

/-- What is installed in a tree. -/
inductive Installed (tree : FileTree) (locations : Locations) (settings : ScannerSettings) :
    Installation → Prop where
  | platform {scope : Scope} {root name : String} {version : Nat} {category : Category}
    {path : Path}
    (hroot : platformRoot? locations scope = some root)
    (hname : TellsPlatform settings.folderStart name version)
    (hversion : settings.leastVersion ≤ version)
    (hpath : path =
      (Path.ofText root).append ["JetBrains", "Installations", name, category.folder])
    (hfolder : tree.isFolder path = true) :
    Installed tree locations settings ⟨scope, category, [version, 0], path⟩
  | package {name : String} {version : PackageVersion} {path : Path}
    (hincluded : settings.includePackages = true)
    (hname : PackageVersion.ofName name = .ok (some version))
    (hpath : path =
      (Path.ofText locations.packageRoot).append [name, "DotFiles", "ExternalAnnotations"])
    (hfolder : tree.isFolder path = true) :
    Installed tree locations settings ⟨.package, .annotations, version, path⟩

/-! ## Names -/

lemma platformVersion?_eq_some {start : String} {version : Nat} :
    platformVersion? start name = some version ↔ TellsPlatform start name version := by
  rw [platformVersion?, TellsPlatform]
  by_cases hstart : start.toList <+: name.toList
  · rw [if_pos (List.isPrefixOf_iff_prefix.2 hstart)]
    obtain ⟨more, hmore⟩ := hstart
    rw [← hmore, ← String.length_toList, List.drop_left]
    -- What stands behind the start decides: only two more characters can be the version.
    rcases more with _ | ⟨tens, _ | ⟨ones, rest⟩⟩
    · simp
    · simp
    · simp only [List.take_succ_cons, List.take_zero, Bool.and_eq_true, List.append_cancel_left_eq,
        List.cons.injEq, Option.ite_none_right_eq_some, Option.some.injEq]
      constructor
      · rintro ⟨⟨htens, hones⟩, rfl⟩
        exact ⟨tens, ones, rest, ⟨rfl, rfl, rfl⟩, htens, hones, rfl⟩
      · rintro ⟨tens, ones, rest, ⟨rfl, rfl, rfl⟩, htens, hones, rfl⟩
        exact ⟨⟨htens, hones⟩, rfl⟩
  · rw [if_neg (fun h => hstart (List.isPrefixOf_iff_prefix.1 h))]
    refine ⟨nofun, ?_⟩
    rintro ⟨tens, ones, rest, hname, -⟩
    exact absurd ⟨tens :: ones :: rest, hname.symm⟩ hstart

/-- Neither a platform's nor a package's folder is named by two dots. -/
lemma TellsPlatform.ne_dots {start : String} {version : Nat}
    (h : TellsPlatform start name version) : name ≠ ".." := by
  rintro rfl
  obtain ⟨tens, ones, rest, hname, htens, -, -⟩ := h
  have hmem : tens ∈ "..".toList := by
    rw [hname]
    exact List.mem_append_right _ List.mem_cons_self
  have hdot : tens = '.' := by simpa using hmem
  rw [hdot] at htens
  exact absurd htens (by decide)

lemma exists_ofName (h : name.length ≤ PackageVersion.digitLimit) :
    ∃ version, PackageVersion.ofName name = .ok version := by
  rw [PackageVersion.ofName]
  split
  · have hnumbers : ∀ component ∈ Text.split '.' name,
        ∃ n, PackageVersion.number component = .ok n := by
      intro component hcomponent
      have hlength := (Text.length_le_of_mem_split hcomponent).trans h
      exact ⟨_, if_neg (Nat.not_lt.2 hlength)⟩
    obtain ⟨version, hversion⟩ := Outcome.exists_mapM hnumbers
    exact ⟨some version, by rw [hversion]; rfl⟩
  · exact ⟨none, rfl⟩

/-! ## Listings -/

lemma string_le_trans (a b c : String) (hab : decide (a ≤ b) = true) (hbc : decide (b ≤ c) = true) :
    decide (a ≤ c) = true :=
  decide_eq_true (String.le_trans (of_decide_eq_true hab) (of_decide_eq_true hbc))

lemma string_le_total (a b : String) : (decide (a ≤ b) || decide (b ≤ a)) = true := by
  simpa using String.le_total a b

lemma string_le_antisymm {a b : String} (hab : decide (a ≤ b) = true)
    (hba : decide (b ≤ a) = true) : a = b :=
  String.le_antisymm (of_decide_eq_true hab) (of_decide_eq_true hba)

lemma pairwise_listed (tree : FileTree) (folder : Path) :
    (listed tree folder).Pairwise (fun a b => a < b) := by
  cases hresolve : tree.resolve folder with
  | error failure =>
    rw [listed_of_error hresolve]
    exact List.Pairwise.nil
  | ok place =>
    rw [listed_of_resolve hresolve]
    have hnodup :=
      (nodup_names tree place).filter (fun name => tree.isFolder (folder.append [name]))
    refine (strict_sortBy string_le_trans string_le_total
      (fun a _ b _ => string_le_antisymm) hnodup).imp ?_
    intro a b hab
    rw [decide_eq_true_iff, decide_eq_true_iff] at hab
    exact String.not_le.1 hab.2

lemma subfolders_eq_of_relisted (h : Relisted tree other) (folder : Path) :
    subfolders other folder = subfolders tree folder := by
  rw [subfolders, subfolders, h.resolve_eq]
  split
  · rename_i place _
    simp only [h.isFolder_eq]
    refine congrArg Except.ok (sortBy_eq_of_perm string_le_trans string_le_total
      (fun a _ b _ => string_le_antisymm) (List.Perm.filter _ ?_))
    rw [names_eq, names_eq]
    exact h.entries.filterMap _
  · rfl

lemma mem_listed (hname : name ≠ "..") :
    name ∈ listed tree folder ↔ tree.isFolder (folder.append [name]) = true := by
  cases hresolve : tree.resolve folder with
  | error failure =>
    rw [listed_of_error hresolve]
    refine ⟨fun h => absurd h List.not_mem_nil, fun h => ?_⟩
    obtain ⟨place, hplace, -⟩ := isFolder_iff.1 h
    obtain ⟨-, start, hstart, -⟩ := resolve_append_eq_ok.1 hplace
    rw [hresolve] at hstart
    cases hstart
  | ok place =>
    rw [listed_of_resolve hresolve, mem_sortBy, List.mem_filter, and_iff_right_iff_imp]
    exact fun h => mem_names.2 ⟨.folder, at?_of_isFolder_append hresolve hname h⟩

/-! ## Order -/

lemma rank_injective : Function.Injective Category.rank := by
  intro a b h
  cases a with
  | annotations =>
    cases b with
    | annotations => rfl
    | extensions => cases h
  | extensions =>
    cases b with
    | annotations => cases h
    | extensions => rfl

lemma scope_rank_injective : Function.Injective Scope.rank := by
  intro a b h
  cases a with
  | system =>
    cases b with
    | system => rfl
    | _ => cases h
  | user =>
    cases b with
    | user => rfl
    | _ => cases h
  | package =>
    cases b with
    | package => rfl
    | _ => cases h

lemma lt_or_eq_of_version_le {a b : PackageVersion} (h : PackageVersion.le a b) :
    a < b ∨ a = b := by
  induction a generalizing b with
  | nil =>
    cases b with
    | nil => exact .inr rfl
    | cons n rest => exact .inl (List.nil_lt_cons n rest)
  | cons m as ih =>
    cases b with
    | nil => cases h
    | cons n bs =>
      rw [PackageVersion.le, Bool.or_eq_true, decide_eq_true_iff, Bool.and_eq_true,
        beq_iff_eq] at h
      rw [List.cons_lt_cons_iff]
      obtain hlt | ⟨rfl, hle⟩ := h
      · exact .inl (.inl hlt)
      · cases ih hle with
        | inl hlt => exact .inl (.inr ⟨rfl, hlt⟩)
        | inr heq => exact .inr (by rw [heq])

/-- Whoever is scanned no later is scanned before, if the names decide where all else agrees. -/
lemma precedes_of_le (hle : le a b)
    (hlevel : le b a → a.category = b.category → a.scope = b.scope → a.ownName < b.ownName) :
    Precedes a b := by
  rw [le, Bool.or_eq_true, decide_eq_true_iff, Bool.and_eq_true, beq_iff_eq, Bool.or_eq_true,
    decide_eq_true_iff, Bool.and_eq_true, beq_iff_eq] at hle
  obtain hcategory | ⟨hcategory, hscope | ⟨hscope, hversion⟩⟩ := hle
  · exact .inl hcategory
  · exact .inr ⟨rank_injective hcategory, .inl hscope⟩
  · refine .inr ⟨rank_injective hcategory, .inr ⟨scope_rank_injective hscope, ?_⟩⟩
    cases lt_or_eq_of_version_le hversion with
    | inl hlt => exact .inl hlt
    | inr heq =>
      refine .inr ⟨heq, hlevel ?_ (rank_injective hcategory) (scope_rank_injective hscope)⟩
      have hrefl := version_le_total b.version b.version
      rw [Bool.or_self] at hrefl
      simp [le, hcategory, hscope, heq, hrefl]

/-! ## Candidates -/

lemma parent_append (names : List String) (last : String) :
    (folder.append (names ++ [last])).parent = folder.append names := by
  rw [Path.parent, Path.append, Path.append, ← List.append_assoc, List.dropLast_concat]

lemma name_append (names : List String) (last : String) :
    (folder.append (names ++ [last])).name = last := by
  rw [Path.name, Path.append, ← List.append_assoc, List.getLast?_concat]
  rfl

/-- The folder of a package is named by its version. -/
lemma ownName_package (name : String) (version : PackageVersion) :
    (⟨.package, .annotations, version, folder.append (name :: packageParts)⟩ :
      Installation).ownName = name := by
  have houter : (folder.append (name :: packageParts)).parent =
      folder.append [name, "DotFiles"] := parent_append [name, "DotFiles"] "ExternalAnnotations"
  have hinner : (folder.append [name, "DotFiles"]).parent = folder.append [name] :=
    parent_append [name] "DotFiles"
  change (folder.append (name :: packageParts)).parent.parent.name = name
  rw [houter, hinner]
  exact name_append [] name

lemma platformCandidate_eq_some {root : String} {scope : Scope} {category : Category} :
    platformCandidate settings root scope category name = some installation ↔
      ∃ version, TellsPlatform settings.folderStart name version ∧
        settings.leastVersion ≤ version ∧ installation = ⟨scope, category, [version, 0],
          (platformFolder root).append [name, category.folder]⟩ := by
  simp only [platformCandidate, ← platformVersion?_eq_some]
  cases platformVersion? settings.folderStart name with
  | none => simp
  | some version => simp [eq_comm]

lemma packageCandidate_eq_some {root : String} :
    packageCandidate root name = some installation ↔ ∃ version,
      PackageVersion.ofName name = .ok (some version) ∧ installation =
        ⟨.package, .annotations, version, (Path.ofText root).append (name :: packageParts)⟩ := by
  rw [packageCandidate]
  rcases PackageVersion.ofName name with failure | (_ | version)
  · simp
  · simp
  · simp [eq_comm]

/-- All candidates whose folder is there are found. -/
lemma mem_scanned {candidate : String → Option Installation} (hinside : Inside folder candidate)
    (hdots : ∀ found, candidate ".." ≠ some found) :
    installation ∈ scanned tree folder candidate ↔
      ∃ name, candidate name = some installation ∧ tree.isFolder installation.path = true := by
  rw [scanned, List.mem_filterMap]
  simp only [Option.filter_eq_some_iff]
  constructor
  · rintro ⟨name, -, hcandidate⟩
    exact ⟨name, hcandidate⟩
  · rintro ⟨name, hcandidate, hfolder⟩
    refine ⟨name, ?_, hcandidate, hfolder⟩
    have hname : name ≠ ".." := fun e => hdots installation (e ▸ hcandidate)
    obtain ⟨parts, hparts, -, hpath⟩ := hinside name installation hcandidate
    rw [mem_listed hname]
    exact isFolder_of_append hparts (by rw [List.singleton_append, ← hpath]; exact hfolder)

lemma pairwise_scanned {candidate : String → Option Installation}
    (hown : ∀ name found, candidate name = some found → found.ownName = name) :
    (scanned tree folder candidate).Pairwise (fun a b => a.ownName < b.ownName) := by
  refine (pairwise_listed tree folder).filterMap _ ?_
  intro name name' hlt found hfound found' hfound'
  rw [Option.filter_eq_some_iff] at hfound hfound'
  rw [hown name found hfound.1, hown name' found' hfound'.1]
  exact hlt

end Installation

end Nullability
