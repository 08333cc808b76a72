import PluginOrder.Plugin.Loading
import PluginOrder.Proofs.Files.Tree
import PluginOrder.Proofs.Json.Reading
import PluginOrder.Proofs.Plugin.Refusal
import PluginOrder.Proofs.Yaml.Drafts
import PluginOrder.Proofs.Yaml.Lexing
import PluginOrder.Proofs.Yaml.Nodes

/-!
# How loading ends

Loading ends with plugins, at a path that leads nowhere, or at a definition that is refused, and
this is what those who start it are prepared for (`Definition.isForeseen`).  It may also end
otherwise, and `Definition.Escapes` lists how: a path is too long, a directory bears the name of a
definition, or a reader meets something in a file that it cannot cope with (`Definition.Breaks`).
There is no other end (`Definition.ends_of_loadAll`), given that the readers have room for
collections within collections: a limit on how deeply these may be nested, as a stack of calls has
one, is not part of the model.

What a file may do is settled reader by reader, each of which gives its own faults
(`Definition.meets_load`).  What a directory may do depends on the tree: a definition that is found
below it is also there when it is read, since the search looked at its path and that is short enough
(`Definition.mem_searchedIn`), so only a directory cannot be read.
-/

namespace PluginOrder.Definition

variable {s : Snapshot} {paths : List Path} {path : Path} {position : Position}
  {names : List String} {entry : Entry} {octets : List UInt8} {format : Format}
  {fault : LoadFault}

/-! ## What a file may hold -/

/-- A file holds something that its reader cannot cope with: in JSON, a run of too many digits; in
YAML, an escape or a version that cannot be read, a scalar without a value of its kind, or a number
that is too large to be shown as text.  Collections that are nested too deeply for the stack of a
reader are left out. -/
inductive Breaks (octets : List UInt8) : Format → LoadFault → Prop
  | digits {chars run : List Char} (hchars : Text.readUtf8 octets = .ok chars)
      (hrun : run <:+: Text.unifyLineBreaks chars) (hdigits : ∀ c ∈ run, Text.isAsciiDigit c)
      (hmany : Text.maxDigits < run.length) : Breaks octets .json (.oversizedNumber run.length)
  | token {chars : List Char} {fault : Yaml.Fault} (hchars : Text.readUtf8 octets = .ok chars)
      (htoken : .broken fault ∈ Yaml.Token.ofText (Text.unifyLineBreaks chars))
      (hlexical : fault.IsLexical) (hfault : fault ≠ .malformed) :
      Breaks octets .yaml (.scalar fault)
  | scalar {chars : List Char} {table : Yaml.NodeTable} {fault : Yaml.Fault}
      (hchars : Text.readUtf8 octets = .ok chars)
      (htable : Yaml.Node.ofTokens (Yaml.Token.ofText (Text.unifyLineBreaks chars)) = .ok table)
      (hunmade : Yaml.Unmade table.nodes fault) (hfault : fault ≠ .malformed) :
      Breaks octets .yaml (.scalar fault)
  | unprintable {chars : List Char} {d : Document} (hchars : Text.readUtf8 octets = .ok chars)
      (hread : Yaml.read (Text.unifyLineBreaks chars) = .ok d) (hsize : d.HoldsOversized d.root) :
      Breaks octets .yaml .unprintableNumber

/-- A definition at a path is refused, and there is something to say about it. -/
def IsRefused (path : Path) (fault : LoadFault) : Prop :=
  ∃ details, details ≠ [] ∧ fault = .refused (.definition path.display details)

theorem isRefused_refuse (path : Path) (message : String) : IsRefused path (refuse path message) :=
  ⟨_, List.cons_ne_nil _ _, rfl⟩

theorem breaks_of_read {chars : List Char} (hchars : Text.readUtf8 octets = .ok chars)
    {fault : Yaml.Fault} (hread : Yaml.read (Text.unifyLineBreaks chars) = .error fault)
    (hfault : fault ≠ .malformed) : Breaks octets .yaml (.scalar fault) := by
  unfold Yaml.read at hread
  split at hread
  · cases htable : Yaml.Node.ofTokens (Yaml.Token.ofText (Text.unifyLineBreaks chars)) with
    | error fault' =>
        rw [htable] at hread
        cases hread
        have htoken := (Yaml.Node.isTold_of_ofTokens htable).resolve_left hfault
        exact .token hchars htoken (Yaml.isLexical_of_mem_ofText htoken) hfault
    | ok table =>
        rw [htable] at hread
        exact .scalar hchars htable ((Yaml.isMaking_of_document hread).resolve_left hfault) hfault
  · cases hread
    exact absurd rfl hfault

/-- A document that is read from JSON holds a value of JSON. -/
theorem meets_readDocument (format : Format) (path : Path) (octets : List UInt8) :
    Meets (fun d => (format = .json → ∃ v : Value, v.IsJson ∧ d = .ofValue v) ∧
        (format = .yaml → ∃ chars, Text.readUtf8 octets = .ok chars ∧
          Yaml.read (Text.unifyLineBreaks chars) = .ok d))
      (fun fault => IsRefused path fault ∨ Breaks octets format fault)
      (readDocument format path octets) := by
  unfold readDocument
  cases hchars : Text.readUtf8 octets with
  | error fault => exact Or.inl (isRefused_refuse _ _)
  | ok chars =>
      cases format with
      | json =>
          dsimp only
          cases hread : Json.read (Text.unifyLineBreaks chars) with
          | ok v => exact ⟨fun _ => ⟨v, (Json.meets_read _).result hread, rfl⟩, nofun⟩
          | error fault =>
              cases fault with
              | malformed kind rest => exact Or.inl (isRefused_refuse _ _)
              | oversizedNumber digits =>
                  obtain ⟨hmany, run, hrun, rfl, hdigits⟩ := (Json.meets_read _).fault hread
                  exact Or.inr (.digits hchars hrun hdigits hmany)
      | yaml =>
          dsimp only
          cases hread : Yaml.read (Text.unifyLineBreaks chars) with
          | ok d => exact ⟨nofun, fun _ => ⟨chars, rfl, hread⟩⟩
          | error fault =>
              cases fault with
              | malformed => exact Or.inl (isRefused_refuse _ _)
              | _ => exact Or.inr (breaks_of_read hchars hread nofun)

/-- A file that can be read is loaded, or refused, or it holds something that its reader cannot cope
with. -/
theorem meets_load (hread : s.read path = .ok octets) :
    Meets (fun _ => True)
      (fun fault => IsRefused path fault ∨
        ∃ format, Format.ofSuffix? path.suffix = some format ∧ Breaks octets format fault)
      (load s path).result := by
  unfold load
  cases hformat : Format.ofSuffix? path.suffix with
  | none => exact Or.inl (isRefused_refuse _ _)
  | some format =>
      have hdocument := meets_readDocument format path octets
      simp only [hread]
      cases hd : readDocument format path octets with
      | error fault =>
          rcases hdocument.fault hd with hrefused | hbreaks
          · exact Or.inl hrefused
          · exact Or.inr ⟨format, rfl, hbreaks⟩
      | ok d =>
          obtain ⟨hjson, hyaml⟩ := hdocument.result hd
          have hjust := meets_read path.display d
          simp only [loaded]
          cases hresult : (read path.display d).result with
          | ok p => trivial
          | error fault =>
              have hfault := hjust.fault hresult
              cases fault with
              | malformed details => exact Or.inl ⟨details, hfault, rfl⟩
              | unprintable =>
                  right
                  cases format with
                  | json =>
                      -- a number that can be read can be printed
                      obtain ⟨v, hv, rfl⟩ := hjson rfl
                      exact absurd hfault (hv.not_holdsOversized v .self)
                  | yaml =>
                      obtain ⟨chars, hchars, hread⟩ := hyaml rfl
                      exact ⟨.yaml, rfl, .unprintable hchars hread hfault⟩

/-! ## What is loaded -/

/-- A path is offered to be loaded: it is listed and leads to a file, or a definition is found there
below a directory that is listed. -/
inductive Offers (s : Snapshot) (paths : List Path) : Path → Entry → Prop
  | listed {path : Path} {position : Position} {octets : List UInt8} (hpath : path ∈ paths)
      (hfile : s.resolve path = .ok (position, .file octets)) : Offers s paths path (.file octets)
  | found {path : Path} {position : Position} {names : List String} {entry : Entry}
      (hpath : path ∈ paths) (hdirectory : s.resolve path = .ok (position, .directory))
      (hbelow : (names, entry) ∈ s.below position) (hdefinition : isDefinition names entry) :
      Offers s paths (path.append names) entry

/-- A fault that is none of a definition escapes: a path that is listed or looked at is too long, a
directory bears the name of a definition, or a file holds something that its reader cannot cope
with. -/
inductive Escapes (s : Snapshot) (paths : List Path) : LoadFault → Prop
  | listed {path : Path} (hpath : path ∈ paths)
      (hlong : Snapshot.pathLimit < path.display.utf8ByteSize ∨
        ∃ name ∈ path.parts, Snapshot.nameLimit < name.utf8ByteSize) :
      Escapes s paths (.unreadable .tooLong path)
  | searched {path : Path} {position : Position} {names : List String} (hpath : path ∈ paths)
      (hdirectory : s.resolve path = .ok (position, .directory))
      (hnames : names ∈ searchedIn s position)
      (hlong : Snapshot.pathLimit < (path.append names).display.utf8ByteSize) :
      Escapes s paths (.unreadable .tooLong (path.append names))
  | directory {path : Path} (hoffered : Offers s paths path .directory)
      (hname : path.parts.getLast? = some definitionFileName) :
      Escapes s paths (.unreadable .isDirectory path)
  | broken {path : Path} {octets : List UInt8} {format : Format} {fault : LoadFault}
      (hoffered : Offers s paths path (.file octets))
      (hformat : Format.ofSuffix? path.suffix = some format)
      (hbreaks : Breaks octets format fault) :
      Escapes s paths fault

/-- How loading ends: with plugins, at a path that leads nowhere, at a definition that is refused,
or with a fault that escapes. -/
inductive Ends (s : Snapshot) (paths : List Path) : Except LoadFault (List Plugin) → Prop
  | loaded (plugins : List Plugin) : Ends s paths (.ok plugins)
  | missing {path : Path} (hpath : path ∈ paths) (hmissing : ∀ found, s.resolve path ≠ .ok found) :
      Ends s paths (.error (.noSuchPath path))
  | refused {path : Path} {octets : List UInt8} {details : List Detail}
      (hoffered : Offers s paths path (.file octets)) (hdetails : details ≠ []) :
      Ends s paths (.error (.refused (.definition path.display details)))
  | escaped {fault : LoadFault} (hescapes : Escapes s paths fault) : Ends s paths (.error fault)

theorem Ends.map {plugins : Except LoadFault (List Plugin)} (h : Ends s paths plugins)
    (f : List Plugin → List Plugin) : Ends s paths (plugins.map f) := by
  cases h with
  | loaded plugins => exact .loaded (f plugins)
  | missing hpath hmissing => exact .missing hpath hmissing
  | refused hoffered hdetails => exact .refused hoffered hdetails
  | escaped hescapes => exact .escaped hescapes

theorem suffix_of_definitionFileName (h : path.parts.getLast? = some definitionFileName) :
    path.suffix = ".json" := by
  rw [Path.suffix, h]
  decide +kernel

/-- Of the directories only one that bears the name of a definition is offered. -/
theorem Offers.name_of_directory (h : Offers s paths path .directory) :
    path.parts.getLast? = some definitionFileName := by
  cases h with
  | @found _ _ names _ _ _ hbelow hdefinition =>
      have hlast : names.getLast? = some definitionFileName := by
        simpa [isDefinition] using hdefinition
      rw [Path.append, List.getLast?_append, hlast, Option.some_or]

theorem ends_of_load (hoffered : Offers s paths path entry)
    (hresolve : s.resolve path = .ok (position, entry)) {fault : LoadFault}
    (hfault : (load s path).result = .error fault) : Ends s paths (.error fault) := by
  cases entry with
  | file octets =>
      have hread : s.read path = .ok octets := by simp [Snapshot.read, hresolve]
      rcases (meets_load hread).fault hfault with
        ⟨details, hdetails, rfl⟩ | ⟨format, hformat, hbreaks⟩
      · exact .refused hoffered hdetails
      · exact .escaped (.broken hoffered hformat hbreaks)
  | directory =>
      -- a directory is offered only under the usual name, which ends in `.json`
      have hname := hoffered.name_of_directory
      have hread : s.read path = .error .isDirectory := by simp [Snapshot.read, hresolve]
      have hformat : Format.ofSuffix? path.suffix = some .json := by
        rw [suffix_of_definitionFileName hname]
        rfl
      simp only [load, hformat, hread, Except.error.injEq] at hfault
      subst hfault
      exact .escaped (.directory hoffered hname)

theorem ends_of_loadEach {files : List Path}
    (h : ∀ file ∈ files, ∃ position entry, Offers s paths file entry ∧
      s.resolve file = .ok (position, entry)) :
    Ends s paths (loadEach s files).result := by
  induction files with
  | nil => exact .loaded []
  | cons file rest ih =>
      obtain ⟨⟨position, entry, hoffered, hresolve⟩, hrest⟩ := List.forall_mem_cons.mp h
      simp only [loadEach]
      split
      · rename_i fault hfault
        exact ends_of_load hoffered hresolve hfault
      · exact (ih hrest).map _

/-- What is found as a definition was looked at. -/
theorem mem_searchedIn (htree : s.IsTree) (hbelow : (names, entry) ∈ s.below position)
    (hdefinition : isDefinition names entry) : names ∈ searchedIn s position := by
  obtain ⟨hmem, hne⟩ := Snapshot.mem_below.mp hbelow
  simp only [isDefinition, Bool.or_eq_true, beq_iff_eq, Bool.and_eq_true] at hdefinition
  rcases hdefinition with hlast | ⟨⟨hsingle, -⟩, -⟩
  · obtain ⟨front, rfl⟩ : ∃ front, names = front ++ [definitionFileName] :=
      ⟨names.dropLast, (List.dropLast_append_getLast? _ hlast).symm⟩
    refine List.mem_append_left _ (List.mem_map.mpr ⟨front, ?_, rfl⟩)
    -- the directory that is searched is not among what is found below it
    by_cases hfront : front = []
    · exact hfront ▸ List.mem_cons_self
    · rw [← List.append_assoc] at hmem
      have hparent : (position ++ front, Entry.directory) ∈ s.entries :=
        Snapshot.mem_of_at? (by simpa using htree.parents _ hmem) (by simp [hfront])
      have hfound := Snapshot.mem_below.mpr ⟨hparent, hfront⟩
      exact List.mem_cons_of_mem _ (List.mem_map.mpr ⟨_, List.mem_filter.mpr ⟨hfound, rfl⟩, rfl⟩)
  · exact List.mem_append_right _
      (List.mem_filter.mpr ⟨List.mem_map.mpr ⟨_, hbelow, rfl⟩, by simpa using hsingle⟩)

theorem ends_of_loadPath (htree : s.IsTree) (hpath : path ∈ paths) :
    Ends s paths (loadPath s path).result := by
  unfold loadPath
  split
  · rename_i hlong
    exact .escaped (.listed hpath (Snapshot.long_of_resolve hlong))
  · rename_i fault _ hfault
    refine .missing hpath fun found hfound => ?_
    rw [hfound] at hfault
    cases hfault
  · rename_i position octets hfile
    refine ends_of_loadEach fun file hmem => ?_
    obtain rfl := List.mem_singleton.mp hmem
    exact ⟨position, _, .listed hpath hfile, hfile⟩
  · rename_i position hdirectory
    split
    · rename_i obstacle hobstacle
      obtain ⟨names, hnames, rfl⟩ := List.mem_map.mp (List.mem_of_find?_eq_some hobstacle)
      have hlong := List.find?_some hobstacle
      exact .escaped (.searched hpath hdirectory hnames (of_decide_eq_true hlong))
    · rename_i hnone
      refine ends_of_loadEach fun file hmem => ?_
      obtain ⟨names, hsorted, rfl⟩ := List.mem_map.mp hmem
      obtain ⟨⟨_, entry⟩, hfiltered, rfl⟩ := List.mem_map.mp (List.mem_mergeSort.mp hsorted)
      obtain ⟨hbelow, hdefinition⟩ := List.mem_filter.mp hfiltered
      -- every path that is searched is short enough, this one among them
      have hshort := List.find?_eq_none.mp hnone _
        (List.mem_map_of_mem (mem_searchedIn htree hbelow hdefinition))
      have hsize := Nat.le_of_not_lt fun hlong => hshort (decide_eq_true hlong)
      exact ⟨_, entry, .found hpath hdirectory hbelow hdefinition,
        htree.resolve_append hdirectory hbelow hsize⟩

/-- **How loading ends.**  In a tree of files loading gives plugins, or stops at a path that is
listed and leads nowhere, or at a definition that is refused with a reason, or with one of the
faults that escape. -/
theorem ends_of_loadAll (htree : s.IsTree) (paths : List Path) :
    Ends s paths (loadAll s paths).result := by
  -- the paths run out one by one, but a path that is left is still one of all that were listed
  suffices h : ∀ listed : List Path, (∀ path ∈ listed, path ∈ paths) →
      Ends s paths (loadAll s listed).result from h paths fun _ h => h
  intro listed hlisted
  induction listed with
  | nil => exact .loaded []
  | cons path rest ih =>
      obtain ⟨hpath, hrest⟩ := List.forall_mem_cons.mp hlisted
      have hfirst := ends_of_loadPath htree hpath
      simp only [loadAll]
      split
      · rename_i fault hfault
        rwa [hfault] at hfirst
      · exact (ih hrest).map _

/-- Loading ends as those who start it expect: with plugins, at a path that leads nowhere, or at a
definition that is refused. -/
def isForeseen : Except LoadFault (List Plugin) → Bool
  | .ok _ => true
  | .error (.noSuchPath _) => true
  | .error (.refused _) => true
  | .error _ => false

/-- A definition with a day that is none, and a directory that bears the name of a definition. -/
def almanac : Snapshot where
  workingDirectory := []
  entries := [
    (["a.yaml"], .file "identifier: a\nborn: 2001-13-01\n".toUTF8.toList),
    (["old"], .directory),
    (["old", "pluginDefinition.json"], .directory)]

theorem ends_of_loadAll_almanac :
    almanac.IsTree ∧ Ends almanac [⟨"", ["old"]⟩, ⟨"", ["a.yaml"]⟩]
      (loadAll almanac [⟨"", ["old"]⟩, ⟨"", ["a.yaml"]⟩]).result :=
  ⟨by decide +kernel, ends_of_loadAll (by decide +kernel) _⟩

theorem not_isForeseen_almanac :
    almanac.IsTree ∧ isForeseen (loadAll almanac [⟨"", ["a.yaml"]⟩]).result = false ∧
      isForeseen (loadAll almanac [⟨"", ["old"]⟩]).result = false := by
  decide +kernel

end PluginOrder.Definition
