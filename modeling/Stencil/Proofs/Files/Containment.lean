import Mathlib.Data.List.Basic
import Stencil.Files.Source

/-! Fetches of template files stay below their root. -/

namespace Stencil

/-- Every path has a part. -/
theorem PathPart.ofPath_ne_nil (path : String) : PathPart.ofPath path ≠ [] :=
  fun empty => List.splitOnP_ne_nil _ _ (List.map_eq_nil_iff.mp empty)

namespace FileTree

variable {tree : FileTree} {here names : List String}

/-- Names are followed one after the other. -/
theorem at?_append (tree : FileTree) (first second : List String) :
    tree.at? (first ++ second) = (tree.at? first).bind (·.at? second) := by
  induction first generalizing tree with
  | nil => rfl
  | cons name rest inductionHypothesis =>
      cases tree with
      | file bytes => rfl
      | link target => rfl
      | directory children =>
          rw [List.cons_append, at?, at?, Option.bind_assoc]
          exact Option.bind_congr fun child _ => inductionHypothesis child

/-- Names that lead to a node other than a link, without links on the way. -/
def IsCanonical (tree : FileTree) (names : List String) : Prop :=
  ∃ node, tree.at? names = some node ∧ ∀ target, node ≠ link target

/-- Names that lead to a directory are canonical. -/
theorem isCanonical_of_directory {children : List (String × FileTree)}
    (found : tree.at? names = some (directory children)) : tree.IsCanonical names :=
  ⟨directory children, found, fun _ same => by cases same⟩

/-- What lies before a node is a directory. -/
theorem isCanonical_dropLast (canonical : tree.IsCanonical names) :
    tree.IsCanonical names.dropLast := by
  rcases List.eq_nil_or_concat names with rfl | ⟨front, name, rfl⟩
  · exact canonical
  · obtain ⟨node, found, -⟩ := canonical
    rw [List.concat_eq_append, at?_append] at found
    obtain ⟨parent, leads, below⟩ := Option.bind_eq_some_iff.mp found
    rw [List.concat_eq_append, List.dropLast_concat]
    cases parent with
    | directory children => exact isCanonical_of_directory leads
    | file bytes => cases below
    | link target => cases below

/-- A name in a directory leads to the child of that name. -/
theorem at?_child {children : List (String × FileTree)} {name : String}
    (found : tree.at? here = some (directory children)) :
    tree.at? (here ++ [name]) = children.lookup name := by
  rw [at?_append, found, Option.bind_some, at?]
  cases children.lookup name <;> rfl

/-- The names that a walk answers with are canonical. -/
theorem isCanonical_of_walk {links : Nat} {parts : List PathPart}
    (start : parts = [] → tree.IsCanonical here)
    (walked : tree.walk links here parts = .ok names) : tree.IsCanonical names := by
  fun_induction walk tree links here parts with
  | case1 links here =>
      cases walked
      exact start rfl
  | case2 links here rest children found inductionHypothesis =>
      exact inductionHypothesis (fun _ => isCanonical_of_directory found) walked
  | case3 links here rest children found inductionHypothesis =>
      exact inductionHypothesis
        (fun _ => isCanonical_dropLast (isCanonical_of_directory found)) walked
  | case8 here rest children found name short target remaining held some inductionHypothesis =>
      exact inductionHypothesis
        (fun empty => absurd (List.append_eq_nil_iff.mp empty).1 (PathPart.ofPath_ne_nil target))
        walked
  | case9 links here rest children found name short child noLink held inductionHypothesis =>
      exact inductionHypothesis (fun _ => ⟨child, (at?_child found).trans held, noLink⟩) walked
  | case4 | case5 | case6 | case7 | case10 => cases walked

/-- Canonical paths have canonical names. -/
theorem isCanonical_of_canonical {path : String} (resolved : tree.canonical here path = .ok names) :
    tree.IsCanonical names := by
  rw [canonical] at resolved
  split at resolved
  · cases resolved
  · split at resolved
    · cases resolved
    · exact isCanonical_of_walk (fun empty => absurd empty (PathPart.ofPath_ne_nil path)) resolved

/-- Only files have bytes. -/
theorem readAt_eq_ok_iff {bytes : ByteArray} :
    tree.readAt names = .ok bytes ↔ tree.at? names = some (file bytes) := by
  rw [readAt]
  split
  · rename_i held found
    rw [found, Except.ok.injEq, Option.some.injEq, FileTree.file.injEq]
  · rename_i children found
    simp [found]
  · rename_i target found
    simp [found]
  · rename_i missing
    simp [missing]

/-- A path that leads nowhere cannot be read. -/
theorem read_ne_ok {path : String} {fault : FileFault}
    (faulty : tree.canonical here path = .error fault) (bytes : ByteArray) :
    tree.read here path ≠ .ok bytes := by
  rw [read, faulty]
  split
  · exact fun same => by cases same
  · exact fun same => by cases same

end FileTree

namespace FileSource

variable {source : FileSource} {tree : FileTree} {here : List String}

/-- Markup is what the bytes of a file decode to. -/
theorem report_eq_ok_iff {path markup : String} {read : Except FileFault ByteArray} :
    report path read = .ok markup ↔
      ∃ bytes, read = .ok bytes ∧ String.fromUTF8? bytes = some markup := by
  cases read with
  | error fault => cases fault <;> simp [report]
  | ok bytes =>
      rw [report]
      cases decoded : String.fromUTF8? bytes with
      | none => simp [decoded]
      | some text => simp [decoded]

/-- The texts between the slashes of a path, without the slashes at its start. -/
def partsOf (path : String) : List (List Char) :=
  (path.toList.dropWhile (· = '/')).splitOn '/'

/-- A path climbs if one of its parts is two dots. -/
theorem climbs_iff {path : String} : climbs path = true ↔ ['.', '.'] ∈ partsOf path := by
  have parent : ∀ text, PathPart.ofText text = .parent ↔ text = ['.', '.'] := by
    intro text
    rw [PathPart.ofText]
    split
    · rename_i current
      rcases current with rfl | rfl <;> decide
    · split
      · rename_i dots
        simp [dots]
      · rename_i other
        simp [other]
  rw [climbs, List.contains_iff_mem, PathPart.ofPath, List.mem_map, relative,
    String.toList_ofList, partsOf]
  constructor
  · rintro ⟨text, member, same⟩
    exact (parent text).mp same ▸ member
  · exact fun member => ⟨_, member, (parent _).mpr rfl⟩

/-- With a canonical root, the fetches that succeed are those of files below it. -/
theorem fetch_eq_ok_iff {root : List String} (rooted : source.canonicalRoot = some root)
    {path markup : String} :
    source.fetch tree here path = .ok markup ↔
      climbs path = false ∧ ∃ names bytes,
        tree.canonical here (source.fullPath path) = .ok names ∧ root <+: names ∧
        tree.at? names = some (.file bytes) ∧ String.fromUTF8? bytes = some markup := by
  unfold fetch target?
  rw [rooted]
  cases climbs path with
  | true => simp
  | false =>
      cases resolved : tree.canonical here (source.fullPath path) with
      | error fault =>
          simp [Except.toOption, readTarget, report_eq_ok_iff, FileTree.read_ne_ok resolved]
      | ok names =>
          by_cases below : root <+: names
          · simp [Except.toOption, readTarget, report_eq_ok_iff, below, FileTree.readAt_eq_ok_iff]
          · simp [Except.toOption, below]

/-- A path that climbs is refused before the tree is looked at. -/
theorem fetch_of_climbs {path : String} (climbing : climbs path = true) :
    source.fetch tree here path = .error (refused path) := by
  unfold fetch target?
  rw [if_pos climbing]

/-- Slashes at the start of a path do not count. -/
theorem relative_slashes (count : Nat) (rest : List Char) :
    relative (String.ofList (List.replicate count '/' ++ rest)) =
      relative (String.ofList rest) := by
  have slashes : ∀ character ∈ List.replicate count '/', decide (character = '/') = true :=
    fun character member => decide_eq_true (List.eq_of_mem_replicate member)
  rw [relative, relative, String.toList_ofList, String.toList_ofList,
    List.dropWhile_append_of_pos slashes]

/-- Only the messages of a report name the path. -/
theorem toOption_report (path : String) (read : Except FileFault ByteArray) :
    (report path read).toOption = read.toOption.bind String.fromUTF8? := by
  cases read with
  | error fault => cases fault <;> rfl
  | ok bytes =>
      rw [report, Except.toOption, Option.bind_some]
      cases String.fromUTF8? bytes <;> rfl

/-- Paths that differ in slashes at the start have the same place. -/
theorem target?_of_relative {first second : String} (same : relative first = relative second) :
    source.target? first = source.target? second := by
  funext canonical
  unfold target? climbs fullPath
  rw [same]

/-- Paths that differ in slashes at the start give the same markup. -/
theorem toOption_fetch_of_relative {first second : String}
    (same : relative first = relative second) :
    (source.fetch tree here first).toOption = (source.fetch tree here second).toOption := by
  have full : source.fullPath first = source.fullPath second := by rw [fullPath, fullPath, same]
  rw [fetch, fetch, target?_of_relative same, full]
  split
  · rfl
  · rw [toOption_report, toOption_report]

/-- Fetches answer with files below the canonical root, whatever links are on the way. -/
theorem fetch_within_root {tree : FileTree} {here : List String} {root : String}
    {canonicalRoot : List String} (rooted : tree.canonical here root = .ok canonicalRoot) :
    tree.IsCanonical canonicalRoot ∧
    (∀ path markup, (ofTree tree here root).fetch tree here path = .ok markup ↔
      ['.', '.'] ∉ partsOf path ∧ ∃ names bytes,
        tree.canonical here ((ofTree tree here root).fullPath path) = .ok names ∧
        tree.IsCanonical names ∧ canonicalRoot <+: names ∧
        tree.at? names = some (.file bytes) ∧ String.fromUTF8? bytes = some markup) ∧
    (∀ (source : FileSource) tree here path, ['.', '.'] ∈ partsOf path →
      source.fetch tree here path = .error (.notFound (path ++ " (path traversal blocked)"))) ∧
    ∀ (source : FileSource) tree here front back rest,
      let first := String.ofList (List.replicate front '/' ++ rest)
      let second := String.ofList (List.replicate back '/' ++ rest)
      source.target? first (tree.canonical here (source.fullPath first)).toOption =
        source.target? second (tree.canonical here (source.fullPath second)).toOption ∧
      (source.fetch tree here first).toOption = (source.fetch tree here second).toOption := by
  have known : (ofTree tree here root).canonicalRoot = some canonicalRoot := by
    rw [ofTree, rooted]
    rfl
  refine ⟨FileTree.isCanonical_of_canonical rooted, fun path markup => ?_,
    fun source tree here path climbing => fetch_of_climbs (climbs_iff.mpr climbing),
    fun source tree here front back rest => ?_⟩
  · rw [fetch_eq_ok_iff known, ← climbs_iff, Bool.not_eq_true]
    refine and_congr_right fun _ => exists_congr fun names => exists_congr fun bytes => ?_
    exact and_congr_right fun resolved =>
      (and_iff_right (FileTree.isCanonical_of_canonical resolved)).symm
  · intro first second
    -- Both paths are one behind their slashes.
    have same : relative first = relative second := by
      rw [relative_slashes, relative_slashes]
    have full : source.fullPath first = source.fullPath second := by
      rw [fullPath, fullPath, same]
    exact ⟨by rw [target?_of_relative same, full], toOption_fetch_of_relative same⟩

/-- A root behind a link, with links that stay, climb out, or lead nowhere. -/
def linkedFiles : FileTree :=
  .directory
    [("www", .link "srv/./site"),
      ("secret.html", .file "hidden".toUTF8),
      ("srv", .directory
        [("site", .directory
          [("b.html", .file "shown".toUTF8),
            ("inside.html", .link "/www/b.html"),
            ("outside.html", .link "../../secret.html"),
            ("gone.html", .link "/nowhere")])])]

theorem ofPath_linkedFiles :
    PathPart.ofPath "www" = [.name "www"] ∧
    PathPart.ofPath "srv/./site" = [.name "srv", .current, .name "site"] ∧
    PathPart.ofPath "/www/b.html" = [.current, .name "www", .name "b.html"] ∧
    PathPart.ofPath "../../secret.html" = [.parent, .parent, .name "secret.html"] ∧
    PathPart.ofPath "/nowhere" = [.current, .name "nowhere"] ∧
    PathPart.ofPath "www/inside.html" = [.name "www", .name "inside.html"] ∧
    PathPart.ofPath "www/outside.html" = [.name "www", .name "outside.html"] ∧
    PathPart.ofPath "www/gone.html" = [.name "www", .name "gone.html"] := by
  decide +kernel

/-- Where the links of the sample lead. -/
theorem canonical_linkedFiles :
    linkedFiles.canonical [] "www" = .ok ["srv", "site"] ∧
    linkedFiles.canonical [] "www/inside.html" = .ok ["srv", "site", "b.html"] ∧
    linkedFiles.canonical [] "www/outside.html" = .ok ["secret.html"] ∧
    linkedFiles.canonical [] "www/gone.html" = .error .missing := by
  simp +decide [FileTree.canonical, FileTree.walk, FileTree.at?, FileTree.startOf,
    FileTree.linkLimit, linkedFiles, ofPath_linkedFiles, List.lookup_cons]

/-- The link out of the root is refused, and the one that stays is read. -/
theorem fetch_within_root_linkedFiles :
    linkedFiles.canonical [] "www" = .ok ["srv", "site"] ∧
    (ofTree linkedFiles [] "www").fetch linkedFiles [] "//inside.html" = .ok "shown" ∧
    ∀ path ∈ ["/outside.html", "/gone.html", "/./../secret.html"], ∀ markup,
      (ofTree linkedFiles [] "www").fetch linkedFiles [] path ≠ .ok markup := by
  obtain ⟨rooted, inside, outside, gone⟩ := canonical_linkedFiles
  obtain ⟨-, served, refusing, -⟩ := fetch_within_root rooted
  have decoded : String.fromUTF8? "shown".toUTF8 = some "shown" := by decide +kernel
  refine ⟨rooted, (served _ _).mpr ⟨by decide +kernel, _, _, inside,
    FileTree.isCanonical_of_canonical inside, by decide, rfl, decoded⟩, ?_⟩
  intro path among markup fetched
  obtain ⟨level, names, bytes, resolved, -, below, -⟩ := (served path markup).mp fetched
  rcases List.mem_cons.mp among with rfl | among
  · have left := Except.ok.inj (outside.symm.trans resolved)
    rw [← left] at below
    exact absurd below (by decide)
  · rcases List.mem_cons.mp among with rfl | among
    · exact absurd (gone.symm.trans resolved) (by simp)
    · cases List.mem_singleton.mp among
      exact absurd (by decide +kernel) level

end FileSource

end Stencil
