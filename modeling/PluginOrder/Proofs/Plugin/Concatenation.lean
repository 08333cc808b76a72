import PluginOrder.Proofs.Files.Listing
import PluginOrder.Proofs.Plugin.Loading
import Mathlib.Data.List.Forall2
import Mathlib.Data.List.Nodup

/-!
# What paths stand for

A path stands for files (`Definition.StandsFor`): one that leads to a file for that file alone, one
that leads to a directory for the definitions in it, each of them once and in the order of their
names.  Two rules make something a definition in a directory (`Definition.Belongs`), and one that
satisfies both is still only one.

Loading reads the files that the listed paths stand for, one after the other in the order of the
paths, and either all of them give plugins, which are the result, or the first that does not gives
the fault (`Definition.meets_loadAll`).  Nothing of that depends on the order in which the members
of a directory are enumerated; only among several paths that are too long to be looked at it decides
which one is named (`Definition.loadAll_of_relists`).
-/

namespace PluginOrder.Definition

variable {s t : Snapshot} {paths files : List Path} {path file : Path} {position : Position}
  {names : List String} {entry : Entry} {fault : LoadFault}

/-- What is a definition in a directory: whatever bears the usual name, at any depth, and every file
directly in the directory that has a suffix for definitions, in small letters or not. -/
inductive Belongs (s : Snapshot) (position : Position) : List String → Prop
  | usual {names : List String} {entry : Entry} (hentry : (position ++ names, entry) ∈ s.entries)
      (hname : names.getLast? = some "pluginDefinition.json") : Belongs s position names
  | direct {name : String} {octets : List UInt8}
      (hfile : (position ++ [name], .file octets) ∈ s.entries)
      (hsuffix : String.ofList (Text.lower (Path.suffixOf name.toList)) ∈
        [".json", ".yaml", ".yml"]) :
      Belongs s position [name]

/-- The files that a path stands for, in the order in which they are read. -/
inductive StandsFor (s : Snapshot) (path : Path) : List Path → Prop
  | file {position : Position} {octets : List UInt8}
      (hfile : s.resolve path = .ok (position, .file octets)) : StandsFor s path [path]
  | directory {position : Position} {members : List (List String)}
      (hdirectory : s.resolve path = .ok (position, .directory))
      (hmembers : ∀ names, names ∈ members ↔ Belongs s position names)
      (hsorted : members.Pairwise (· < ·)) : StandsFor s path (members.map path.append)

/-- A file gives a plugin. -/
def Gives (s : Snapshot) (file : Path) (p : Plugin) : Prop := (load s file).result = .ok p

/-- How a path fails: it leads nowhere or is too long, or its directory cannot be searched since a
path that is looked at is too long, or one of the files that it stands for fails and those before it
do not. -/
inductive FailsAt (s : Snapshot) (path : Path) : LoadFault → Prop
  | missing {fault : PathFault} (hfault : s.resolve path = .error fault)
      (hshort : fault ≠ .tooLong) : FailsAt s path (.noSuchPath path)
  | long (hfault : s.resolve path = .error .tooLong) : FailsAt s path (.unreadable .tooLong path)
  | search {position : Position} {names : List String}
      (hdirectory : s.resolve path = .ok (position, .directory))
      (hnames : names ∈ searchedIn s position)
      (hlong : Snapshot.pathLimit < (path.append names).display.utf8ByteSize) :
      FailsAt s path (.unreadable .tooLong (path.append names))
  | file {front rest : List Path} {file : Path} {plugins : List Plugin} {fault : LoadFault}
      (hstands : StandsFor s path (front ++ file :: rest))
      (hfront : List.Forall₂ (Gives s) front plugins)
      (hfault : (load s file).result = .error fault) : FailsAt s path fault

/-! ## Directories -/

theorem isSome_ofSuffix?_iff {suffix : String} :
    (Format.ofSuffix? suffix).isSome = true ↔ suffix ∈ [".json", ".yaml", ".yml"] := by
  unfold Format.ofSuffix?
  split
  · simp [*]
  · split <;> simp_all

theorem belongs_iff : Belongs s position names ↔
    ∃ entry, (names, entry) ∈ s.below position ∧ isDefinition names entry = true := by
  simp only [Snapshot.mem_below, isDefinition, Bool.or_eq_true, Bool.and_eq_true, beq_iff_eq,
    bne_iff_ne, isSome_ofSuffix?_iff]
  constructor
  · intro h
    cases h with
    | @usual _ entry hentry hname =>
        have hne : names ≠ [] := by
          rintro rfl
          cases hname
        exact ⟨entry, ⟨hentry, hne⟩, Or.inl hname⟩
    | @direct name octets hfile hsuffix =>
        exact ⟨.file octets, ⟨hfile, List.cons_ne_nil _ _⟩, Or.inr ⟨⟨rfl, by simp⟩, hsuffix⟩⟩
  · rintro ⟨entry, ⟨hentry, -⟩, hname | ⟨⟨hlength, hfile⟩, hsuffix⟩⟩
    · exact .usual hentry hname
    · obtain ⟨name, rfl⟩ := List.length_eq_one_iff.mp hlength
      cases entry with
      | file octets => exact .direct hentry hsuffix
      | directory => exact absurd rfl hfile

theorem nodup_below (htree : s.IsTree) (position : Position) :
    ((s.below position).map Prod.fst).Nodup := by
  -- the positions of a tree are distinct, and the names below one are cut off of them
  have hnames : (s.below position).map Prod.fst =
      (s.entries.map Prod.fst).filterMap (Snapshot.namesBelow? position) := by
    rw [Snapshot.below, List.map_filterMap, List.filterMap_map]
    congr 1
    funext other
    exact (Option.map_map _ _ _).trans Option.map_id'
  rw [hnames]
  refine List.Nodup.filterMap (fun other other' names hother hother' => ?_) htree.distinct
  rw [(Snapshot.namesBelow?_eq_some.mp hother).1, (Snapshot.namesBelow?_eq_some.mp hother').1]

theorem standsFor_pathsIn (htree : s.IsTree)
    (hdirectory : s.resolve path = .ok (position, .directory)) :
    StandsFor s path (pathsIn s path position) := by
  refine .directory hdirectory (fun names => ?_) (pairwise_lt_mergeSort ?_)
  · simp [belongs_iff, List.mem_mergeSort]
  · exact (nodup_below htree position).sublist (List.filter_sublist.map _)

/-- A path stands for no other files than those. -/
theorem StandsFor.unique {files' : List Path} (h : StandsFor s path files)
    (h' : StandsFor s path files') :
    files = files' := by
  cases h with
  | file hfile =>
      cases h' with
      | file => rfl
      | directory hdirectory => cases hfile.symm.trans hdirectory
  | @directory position members hdirectory hmembers hsorted =>
      cases h' with
      | file hfile => cases hfile.symm.trans hdirectory
      | @directory position' members' hdirectory' hmembers' hsorted' =>
          cases hdirectory.symm.trans hdirectory'
          have hne {a b : List String} (h : a < b) : a ≠ b := fun heq => List.lt_irrefl b (heq ▸ h)
          -- both lists hold the files that belong, each once
          have hsame : members.Perm members' :=
            (List.perm_ext_iff_of_nodup (hsorted.imp hne) (hsorted'.imp hne)).mpr fun names =>
              (hmembers names).trans (hmembers' names).symm
          -- and the order leaves one arrangement of them
          have heq : members = members' := by
            refine hsame.eq_of_pairwise (fun a b _ _ hab hba => ?_) hsorted hsorted'
            exact absurd (List.lt_trans hab hba) (List.lt_irrefl a)
          rw [heq]

/-! ## One file after the other -/

/-- Files are read up to the first that fails. -/
theorem meets_loadEach (s : Snapshot) (files : List Path) :
    Meets (fun plugins => List.Forall₂ (Gives s) files plugins)
      (fun fault => ∃ front file rest plugins, files = front ++ file :: rest ∧
        List.Forall₂ (Gives s) front plugins ∧ (load s file).result = .error fault)
      (loadEach s files).result := by
  induction files with
  | nil => exact .nil
  | cons file rest ih =>
      simp only [loadEach]
      split
      · rename_i fault hfault
        exact ⟨[], file, rest, [], rfl, .nil, hfault⟩
      · rename_i p hp
        dsimp only
        cases hrest : (loadEach s rest).result with
        | ok plugins => exact .cons hp (ih.result hrest)
        | error fault =>
            obtain ⟨front, failing, others, plugins, rfl, hfront, hfault⟩ := ih.fault hrest
            exact ⟨file :: front, failing, others, p :: plugins, rfl, .cons hp hfront, hfault⟩

theorem meets_loadEach_of_standsFor (hstands : StandsFor s path files) :
    Meets (fun plugins => ∃ files, StandsFor s path files ∧ List.Forall₂ (Gives s) files plugins)
      (FailsAt s path) (loadEach s files).result := by
  refine (meets_loadEach s files).weaken (fun plugins hplugins => ⟨files, hstands, hplugins⟩) ?_
  rintro fault ⟨front, file, rest, plugins, rfl, hfront, hfault⟩
  exact .file hstands hfront hfault

theorem meets_loadPath (htree : s.IsTree) (path : Path) :
    Meets (fun plugins => ∃ files, StandsFor s path files ∧ List.Forall₂ (Gives s) files plugins)
      (FailsAt s path) (loadPath s path).result := by
  unfold loadPath
  split
  · rename_i hlong
    exact .long hlong
  · rename_i fault hshort hfault
    exact .missing hfault hshort
  · rename_i hfile
    exact meets_loadEach_of_standsFor (.file hfile)
  · rename_i position hdirectory
    split
    · rename_i obstacle hobstacle
      obtain ⟨names, hnames, rfl⟩ := List.mem_map.mp (List.mem_of_find?_eq_some hobstacle)
      have hlong := List.find?_some hobstacle
      exact .search hdirectory hnames (of_decide_eq_true hlong)
    · exact meets_loadEach_of_standsFor (standsFor_pathsIn htree hdirectory)

/-- Paths are loaded up to the first that fails. -/
theorem meets_loadAll (htree : s.IsTree) (paths : List Path) :
    Meets
      (fun plugins => ∃ filess, List.Forall₂ (StandsFor s) paths filess ∧
        List.Forall₂ (Gives s) filess.flatten plugins)
      (fun fault => ∃ before path after plugins, paths = before ++ path :: after ∧
        (loadAll s before).result = .ok plugins ∧ FailsAt s path fault)
      (loadAll s paths).result := by
  induction paths with
  | nil => exact ⟨[], .nil, .nil⟩
  | cons path rest ih =>
      have hfirst := meets_loadPath htree path
      simp only [loadAll]
      split
      · rename_i fault hfault
        exact ⟨[], path, rest, [], rfl, rfl, hfirst.fault hfault⟩
      · rename_i plugins hplugins
        obtain ⟨files, hstands, hgives⟩ := hfirst.result hplugins
        dsimp only
        cases hrest : (loadAll s rest).result with
        | ok others =>
            obtain ⟨filess, hall, hothers⟩ := ih.result hrest
            exact ⟨files :: filess, .cons hstands hall, List.rel_append hgives hothers⟩
        | error fault =>
            -- the path that fails is further on, and what is loaded before it grows by this one
            obtain ⟨before, failing, after, others, rfl, hbefore, hfault⟩ := ih.fault hrest
            refine ⟨path :: before, failing, after, plugins ++ others, rfl, ?_, hfault⟩
            simp only [loadAll, hplugins, hbefore]
            rfl

/-! ## The order of a listing -/

/-- Two results are the same, but for which path was found to be too long. -/
def LoadAlike (x y : Except LoadFault (List Plugin)) : Prop :=
  x = y ∨ ∃ long long', x = .error (.unreadable .tooLong long) ∧
    y = .error (.unreadable .tooLong long')

theorem load_of_relists (h : t.Relists s) (htree : s.IsTree) (file : Path) :
    load t file = load s file := by
  rw [load, load, h.read_eq htree]

theorem loadEach_of_relists (h : t.Relists s) (htree : s.IsTree) (files : List Path) :
    loadEach t files = loadEach s files := by
  induction files with
  | nil => rfl
  | cons file rest ih => rw [loadEach, loadEach, load_of_relists h htree, ih]

theorem pathsIn_of_relists (h : t.Relists s) (path : Path) (position : Position) :
    pathsIn t path position = pathsIn s path position := by
  have hfound :=
    ((h.below_perm position).filter fun found => isDefinition found.1 found.2).map Prod.fst
  exact congrArg (List.map path.append) (mergeSort_namesPrecede_congr hfound)

theorem searchedIn_of_relists (h : t.Relists s) (position : Position) :
    (searchedIn t position).Perm (searchedIn s position) := by
  have hbelow := h.below_perm position
  apply List.Perm.append
  · exact (((hbelow.filter _).map _).cons _).map _
  · exact (hbelow.map _).filter _

theorem obstacle?_of_relists (h : t.Relists s) (path : Path) (position : Position) :
    obstacle? t path position = none ↔ obstacle? s path position = none := by
  have hsearched := (searchedIn_of_relists h position).map path.append
  rw [obstacle?, obstacle?, List.find?_eq_none, List.find?_eq_none]
  exact forall_congr' fun looked => by rw [hsearched.mem_iff]

theorem loadPath_of_relists (h : t.Relists s) (htree : s.IsTree) (path : Path) :
    LoadAlike (loadPath t path).result (loadPath s path).result := by
  unfold loadPath
  rw [h.resolve_eq htree]
  cases s.resolve path with
  | error fault => cases fault <;> exact Or.inl rfl
  | ok found =>
      obtain ⟨position, entry⟩ := found
      cases entry with
      | file octets =>
          left
          dsimp only
          rw [loadEach_of_relists h htree]
      | directory =>
          dsimp only
          have hnone := obstacle?_of_relists h path position
          rw [pathsIn_of_relists h, loadEach_of_relists h htree]
          -- either both searches meet something too long, not always the same, or none does
          cases hs : obstacle? s path position with
          | none =>
              rw [hnone.mpr hs]
              exact Or.inl rfl
          | some obstacle =>
              cases ht : obstacle? t path position with
              | none => exact absurd (hnone.mp ht) (by simp [hs])
              | some other => exact Or.inr ⟨other, obstacle, rfl, rfl⟩

theorem loadAll_of_relists (h : t.Relists s) (htree : s.IsTree) (paths : List Path) :
    LoadAlike (loadAll t paths).result (loadAll s paths).result := by
  induction paths with
  | nil => exact Or.inl rfl
  | cons path rest ih =>
      simp only [loadAll]
      rcases loadPath_of_relists h htree path with hsame | ⟨long, long', ht, hs⟩
      · rw [hsame]
        cases hs : (loadPath s path).result with
        | error fault => exact Or.inl rfl
        | ok plugins =>
            dsimp only
            rcases ih with ih | ⟨long, long', ht, hs⟩
            · exact Or.inl (congrArg (Except.map (plugins ++ ·)) ih)
            · rw [ht, hs]
              exact Or.inr ⟨long, long', rfl, rfl⟩
      · rw [ht, hs]
        exact Or.inr ⟨long, long', rfl, rfl⟩

/-- What loading paths gives: the plugins of all files that the paths stand for, in this order, or
the fault of the first path that fails, before which all paths are loaded. -/
structure Concatenates (s : Snapshot) (paths : List Path)
    (result : Except LoadFault (List Plugin)) : Prop where
  returned : ∀ plugins, result = .ok plugins →
    ∃ filess, List.Forall₂ (StandsFor s) paths filess ∧
      List.Forall₂ (Gives s) filess.flatten plugins
  failed : ∀ fault, result = .error fault →
    ∃ before path after plugins, paths = before ++ path :: after ∧
      (loadAll s before).result = .ok plugins ∧ FailsAt s path fault

/-- **What is loaded is what the paths stand for**, path by path and file by file, unless one of
them fails, and whatever order the members of directories are enumerated in, it is the same. -/
theorem concatenates_loadAll (htree : s.IsTree) (paths : List Path) :
    Concatenates s paths (loadAll s paths).result ∧
      ∀ t : Snapshot, t.Relists s →
        LoadAlike (loadAll t paths).result (loadAll s paths).result := by
  have hmeets := meets_loadAll htree paths
  refine ⟨⟨fun plugins h => hmeets.result h, fun fault h => hmeets.fault h⟩, fun t h => ?_⟩
  exact loadAll_of_relists h htree paths

/-- A directory that holds a definition under the usual name, another one two levels down, and a
file whose suffix is in large letters, among others that are no definitions. -/
def cabinet : Snapshot where
  workingDirectory := []
  entries := [
    (["drawer"], .directory),
    (["drawer", "pluginDefinition.json"], .file "\x7b\"identifier\": \"p\"\x7d".toUTF8.toList),
    (["drawer", "a"], .directory),
    (["drawer", "notes.txt"], .file []),
    (["drawer", "a-b.YML"], .file "identifier: y\n".toUTF8.toList),
    (["drawer", "a", "x"], .directory),
    (["drawer", "a", "x", "pluginDefinition.json"],
      .file "\x7b\"identifier\": \"x\"\x7d".toUTF8.toList),
    (["drawer", "a", "other.json"], .file []),
    (["late.json"], .file "\x7b\"identifier\": \"l\"\x7d".toUTF8.toList)]

/-- The definition two levels down comes first: a directory precedes the files with longer names. -/
theorem pathsIn_cabinet :
    pathsIn cabinet ⟨"", ["drawer"]⟩ ["drawer"] =
      [⟨"", ["drawer", "a", "x", "pluginDefinition.json"]⟩, ⟨"", ["drawer", "a-b.YML"]⟩,
        ⟨"", ["drawer", "pluginDefinition.json"]⟩] := by
  let names : List (List String) :=
    [["a", "x", "pluginDefinition.json"], ["a-b.YML"], ["pluginDefinition.json"]]
  have hfound : (((cabinet.below ["drawer"]).filter fun found => isDefinition found.1 found.2).map
      Prod.fst).Perm names := by
    decide +kernel
  have hsorted : names.Pairwise (namesPrecede · · = true) := by
    decide +kernel
  have hmerged := (mergeSort_namesPrecede_congr hfound).trans (List.mergeSort_of_pairwise hsorted)
  exact congrArg (List.map _) hmerged

theorem identifier_loadAll_cabinet :
    (loadAll cabinet [⟨"", ["late.json"]⟩, ⟨"", ["drawer"]⟩]).result.toOption.map
      (·.map (·.identifier)) = some ["l", "x", "y", "p"] := by
  have hresolve : cabinet.resolve ⟨"", ["drawer"]⟩ = .ok (["drawer"], .directory) := rfl
  have hobstacle : obstacle? cabinet ⟨"", ["drawer"]⟩ ["drawer"] = none := by
    decide +kernel
  have hdrawer : (loadPath cabinet ⟨"", ["drawer"]⟩).result =
      (loadEach cabinet (pathsIn cabinet ⟨"", ["drawer"]⟩ ["drawer"])).result := by
    simp only [loadPath, hresolve, hobstacle]
  rw [pathsIn_cabinet] at hdrawer
  simp only [loadAll, hdrawer]
  decide +kernel

theorem concatenates_loadAll_cabinet :
    cabinet.IsTree ∧
      (loadAll cabinet [⟨"", ["late.json"]⟩, ⟨"", ["drawer"]⟩]).result.toOption.map
        (·.map (·.identifier)) = some ["l", "x", "y", "p"] ∧
      Concatenates cabinet [⟨"", ["late.json"]⟩, ⟨"", ["drawer"]⟩]
        (loadAll cabinet [⟨"", ["late.json"]⟩, ⟨"", ["drawer"]⟩]).result :=
  ⟨by decide +kernel, identifier_loadAll_cabinet, (concatenates_loadAll (by decide +kernel) _).1⟩

end PluginOrder.Definition
