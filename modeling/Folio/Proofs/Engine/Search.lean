import Folio.Engine.Settings
import Folio.Proofs.Files.Segments
import Mathlib

/-! A relative name stands for the first file that is there: folders are gone through in order, and
in every folder the file names that the name may stand for. A file that is found is in its folder or
below it, and it is still found after more folders have been added. A name that ends in a known
extension is looked for as it is; but what counts as its extension is what follows the last dot. -/

namespace Folio

/-! ## The first file -/

/-- The file at `path` is the first one that is there, if all files are looked for in one folder
after the other. -/
def Disk.IsFirst (disk : Disk) (folders : List Path) (files : List String) (path : Path) : Prop :=
  ∃ done folder later tried file untried,
    folders = done ++ folder :: later ∧ files = tried ++ file :: untried ∧
    path = Path.join folder file ∧ disk.isFile path = true ∧
    (∀ earlier ∈ done, ∀ name ∈ files, disk.isFile (Path.join earlier name) = false) ∧
    ∀ name ∈ tried, disk.isFile (Path.join folder name) = false

namespace Finder

variable {finder : Finder} {disk : Disk} {name : String} {path : Path}

theorem find?_join_eq_none_iff (folder : Path) (files : List String) :
    (files.map (Path.join folder)).find? disk.isFile = none ↔
      ∀ file ∈ files, disk.isFile (Path.join folder file) = false := by
  simp

theorem find?_join_eq_some_iff (folder : Path) (files : List String) :
    (files.map (Path.join folder)).find? disk.isFile = some path ↔
      ∃ tried file untried, files = tried ++ file :: untried ∧ path = Path.join folder file ∧
        disk.isFile path = true ∧ ∀ name ∈ tried, disk.isFile (Path.join folder name) = false := by
  rw [List.find?_map, Option.map_eq_some_iff]
  constructor
  · rintro ⟨file, found, rfl⟩
    obtain ⟨there, tried, untried, rfl, absent⟩ := List.find?_eq_some_iff_append.mp found
    exact ⟨tried, file, untried, rfl, rfl, there, by simpa using absent⟩
  · rintro ⟨tried, file, untried, rfl, rfl, there, absent⟩
    refine ⟨file, List.find?_eq_some_iff_append.mpr ⟨there, tried, untried, rfl, ?_⟩, rfl⟩
    simpa using absent

section
variable (nonempty : name ≠ "") (relative : Path.isAbsolute name = false)
  (inside : Path.climbs name = false)
include nonempty relative inside

theorem find_eq_find?_candidates :
    finder.find disk name = (finder.candidates name).find? disk.isFile := by
  rw [find, if_neg nonempty, if_neg (by simp [relative]), if_neg (by simp [inside])]

theorem find_eq_findSome? :
    finder.find disk name = finder.folders.findSome? fun folder =>
      ((finder.fileNames name).map (Path.join folder)).find? disk.isFile := by
  rw [find_eq_find?_candidates nonempty relative inside, candidates, List.find?_flatMap]

theorem find_eq_some_iff : finder.find disk name = some path ↔
    disk.IsFirst finder.folders (finder.fileNames name) path := by
  rw [find_eq_findSome? nonempty relative inside, List.findSome?_eq_some_iff]
  simp only [find?_join_eq_some_iff, find?_join_eq_none_iff]
  constructor
  · rintro ⟨done, folder, later, whole, ⟨tried, file, untried, names, place, there, absent⟩, past⟩
    exact ⟨done, folder, later, tried, file, untried, whole, names, place, there, past, absent⟩
  · rintro ⟨done, folder, later, tried, file, untried, whole, names, place, there, past, absent⟩
    exact ⟨done, folder, later, whole, ⟨tried, file, untried, names, place, there, absent⟩, past⟩

theorem find_eq_none_iff : finder.find disk name = none ↔
    ∀ folder ∈ finder.folders, ∀ file ∈ finder.fileNames name,
      disk.isFile (Path.join folder file) = false := by
  rw [find_eq_findSome? nonempty relative inside, List.findSome?_eq_none_iff]
  simp only [find?_join_eq_none_iff]

end

/-! ## More folders -/

/-- A name that stands for a file stands for it still after a folder has been added. -/
theorem find_addFolder (folder : Path) (found : finder.find disk name = some path) :
    (finder.addFolder folder).find disk name = some path := by
  have more : (finder.addFolder folder).candidates name =
      finder.candidates name ++ (finder.fileNames name).map (Path.join folder) := by
    rw [candidates, addFolder, List.flatMap_append, List.flatMap_singleton]
    rfl
  unfold find at found ⊢
  split_ifs at found ⊢
  · exact found
  · rw [more, List.find?_append, found]
    rfl

theorem find_foldl_addFolder (folders : List Path) (found : finder.find disk name = some path) :
    (folders.foldl addFolder finder).find disk name = some path := by
  induction folders generalizing finder with
  | nil => exact found
  | cons folder folders ih => exact ih (find_addFolder folder found)

/-! ## Inside the folders -/

/-- Extensions that belong to the last segment of a name. -/
def HasPlainExtensions (finder : Finder) : Prop :=
  ∀ extension ∈ finder.extensions, extension ≠ "" ∧ '/' ∉ extension.toList ∧ extension ≠ "."

theorem inside_fileNames (plain : finder.HasPlainExtensions) (nonempty : name ≠ "")
    (relative : Path.isAbsolute name = false) (inside : Path.climbs name = false) :
    ∀ file ∈ finder.fileNames name, Path.isAbsolute file = false ∧ Path.climbs file = false := by
  intro file mem
  unfold fileNames at mem
  split at mem
  · obtain rfl := List.mem_singleton.mp mem
    exact ⟨relative, inside⟩
  · obtain ⟨extension, known, rfl⟩ := List.mem_map.mp mem
    obtain ⟨named, flat, more⟩ := plain extension known
    refine ⟨?_, Path.climbs_dotted named flat more inside⟩
    rw [String.append_assoc, Path.isAbsolute_append nonempty, relative]

/-- What is found is in one of the folders or below it. -/
theorem within_of_find (plain : finder.HasPlainExtensions) (nonempty : name ≠ "")
    (relative : Path.isAbsolute name = false) (inside : Path.climbs name = false)
    (found : finder.find disk name = some path) :
    ∃ folder ∈ finder.folders, path.Within folder := by
  obtain ⟨done, folder, later, tried, file, untried, whole, names, rfl, -⟩ :=
    (find_eq_some_iff nonempty relative inside).mp found
  obtain ⟨start, stays⟩ := inside_fileNames plain nonempty relative inside file (by simp [names])
  exact ⟨folder, by simp [whole], Path.within_join folder start stays⟩

/-! ## The whole search -/

theorem hasExtension_iff (finder : Finder) (name : String) :
    finder.hasExtension name = true ↔
      ∃ extension ∈ finder.extensions, Path.extension? name = some extension := by
  unfold hasExtension
  cases Path.extension? name with
  | none => simp
  | some own => simp [eq_comm]

/-- The file names that a name stands for: the name itself if its extension is known, or if no
extension is, and otherwise the name with each extension. -/
theorem fileNames_eq (finder : Finder) (name : String) :
    finder.fileNames name =
      if (∃ extension ∈ finder.extensions, Path.extension? name = some extension) ∨
        finder.extensions = []
      then [name] else finder.extensions.map fun extension => name ++ "." ++ extension := by
  simp only [fileNames, Bool.or_eq_true, hasExtension_iff, List.isEmpty_iff]

/-- What a relative name stands for that does not climb: the first file that is there, for the
folders in order and for the file names in order in each of them; nothing if no file is there. The
file is in one of the folders or below it, and the name stands for it still after more folders have
been added. -/
theorem find_first (finder : Finder) (disk : Disk) {name : String}
    (plain : finder.HasPlainExtensions) (nonempty : name ≠ "")
    (relative : Path.isAbsolute name = false) (inside : Path.climbs name = false) :
    let files :=
      if (∃ extension ∈ finder.extensions, Path.extension? name = some extension) ∨
        finder.extensions = []
      then [name] else finder.extensions.map fun extension => name ++ "." ++ extension
    (∀ path, finder.find disk name = some path ↔ disk.IsFirst finder.folders files path) ∧
    (finder.find disk name = none ↔
      ∀ folder ∈ finder.folders, ∀ file ∈ files, disk.isFile (Path.join folder file) = false) ∧
    ∀ path, finder.find disk name = some path →
      (∃ folder ∈ finder.folders, path.Within folder) ∧
      ∀ more : List Path, (more.foldl addFolder finder).find disk name = some path := by
  intro files
  have names : finder.fileNames name = files := finder.fileNames_eq name
  rw [← names]
  refine ⟨fun path => find_eq_some_iff nonempty relative inside,
    find_eq_none_iff nonempty relative inside, fun path found => ⟨?_, fun more => ?_⟩⟩
  · exact within_of_find plain nonempty relative inside found
  · exact find_foldl_addFolder more found

def twoFolders : Finder := ⟨["a", "b"], ["tpl", "inc"]⟩

def twoTemplates : Disk where
  root := .folder [("a", .folder [("page.inc", .file (some "x"))]),
    ("b", .folder [("page.tpl", .file (some "y"))])]
  here := []

/-- The first folder counts, even if the other one has a file with the first extension. -/
theorem find_first_twoFolders :
    twoFolders.find twoTemplates "page" = some "a/page.inc" ∧
      (∃ folder ∈ twoFolders.folders, Path.Within "a/page.inc" folder) ∧
      (twoFolders.addFolder "c").find twoTemplates "page" = some "a/page.inc" := by
  have plain : twoFolders.HasPlainExtensions := by
    simp only [HasPlainExtensions, twoFolders]
    decide
  have relative : Path.isAbsolute "page" = false := by decide +kernel
  have inside : Path.climbs "page" = false := by decide +kernel
  have unnamed : Path.extension? "page" = none := by decide +kernel
  obtain ⟨first, -, stays⟩ :=
    twoFolders.find_first twoTemplates plain (by decide) relative inside
  have found : twoFolders.find twoTemplates "page" = some "a/page.inc" := by
    rw [first, if_neg (by simp [unnamed, twoFolders])]
    refine ⟨[], "a", ["b"], ["page.tpl"], "page.inc", [], rfl, ?_, ?_, ?_, ?_, ?_⟩
    · decide +kernel
    · decide +kernel
    · decide +kernel
    · simp
    · decide +kernel
  exact ⟨found, (stays _ found).1, (stays _ found).2 ["c"]⟩

/-! ## Names with a known extension -/

/-- As soon as one extension is known, a name is looked for either as it is or with all of them. -/
theorem find_known (nonempty : name ≠ "") (relative : Path.isAbsolute name = false)
    (inside : Path.climbs name = false) {extension : String}
    (known : extension ∈ finder.extensions) :
    finder.find disk name =
      if ∃ last ∈ finder.extensions, Path.extension? name = some last then
        (finder.folders.find? fun folder => disk.isFile (Path.join folder name)).map
          fun folder => Path.join folder name
      else (finder.folders.flatMap fun folder =>
        finder.extensions.map fun more => Path.join folder (name ++ "." ++ more)).find?
          disk.isFile := by
  have more : finder.extensions ≠ [] := List.ne_nil_of_mem known
  rw [find_eq_find?_candidates nonempty relative inside, candidates, fileNames_eq]
  by_cases carries : ∃ last ∈ finder.extensions, Path.extension? name = some last
  · rw [if_pos (.inl carries), if_pos carries]
    simp only [List.map_singleton]
    rw [← List.map_eq_flatMap, List.find?_map]
    rfl
  · rw [if_neg (not_or.mpr ⟨carries, more⟩), if_neg carries]
    simp only [List.map_map]
    rfl

/-- A name that ends in a known extension is looked for as it is if what counts as its extension is
known, too; otherwise all extensions are appended to it once more. What counts is what follows the
last dot, so a name is always looked for as it is if the extension has no dot. -/
theorem find_dotted {settings : Settings} (valid : settings.check = .ok settings) (disk : Disk)
    {base : Path} {extension : String} (known : extension ∈ settings.extensions)
    (relative : Path.isAbsolute (base ++ "." ++ extension) = false)
    (inside : Path.climbs (base ++ "." ++ extension) = false) :
    let name := base ++ "." ++ extension
    let found := (Engine.ofSettings disk settings).finder.find disk name
    let own := (settings.folders.find? fun folder => disk.isFile (Path.join folder name)).map
      fun folder => Path.join folder name
    (found =
      if ∃ last ∈ settings.extensions, Path.extension? name = some last then own
      else (settings.folders.flatMap fun folder =>
        settings.extensions.map fun more => Path.join folder (name ++ "." ++ more)).find?
          disk.isFile) ∧
    (base.segments.getLast? ≠ some "" → '/' ∉ extension.toList →
      Path.extension? name = some (Path.afterDot extension) ∧
        ('.' ∉ extension.toList → found = own)) := by
  intro name found own
  have nonempty : name ≠ "" := by
    intro none
    simpa [name] using congrArg String.toList none
  have result : found = _ := find_known nonempty relative inside known
  refine ⟨result, fun stem flat => ?_⟩
  have named : extension ≠ "" := by
    rintro rfl
    exact (Settings.check_eq_ok_iff.mp valid).2.2.1 known
  have carries : Path.extension? name = some (Path.afterDot extension) :=
    Path.extension?_dotted stem named flat
  refine ⟨carries, fun undotted => ?_⟩
  rw [Path.afterDot_of_undotted undotted] at carries
  rw [result, if_pos ⟨extension, known, carries⟩]
  rfl

theorem find_dotted_page :
    (Engine.ofSettings twoTemplates { folders := ["a", "b"] }).finder.find twoTemplates "page.tpl" =
      some "b/page.tpl" := by
  have valid : Settings.check { folders := ["a", "b"] } = .ok { folders := ["a", "b"] } := by
    decide +kernel
  have known : "tpl" ∈ ({ folders := ["a", "b"] } : Settings).extensions := by decide +kernel
  have stem : (Path.segments "page").getLast? ≠ some "" := by decide +kernel
  have flat : '/' ∉ "tpl".toList := by decide
  have relative : Path.isAbsolute ("page" ++ "." ++ "tpl") = false := by decide +kernel
  have inside : Path.climbs ("page" ++ "." ++ "tpl") = false := by decide +kernel
  obtain ⟨-, found⟩ := (find_dotted valid twoTemplates known relative inside).2 stem flat
  refine (found (by decide)).trans ?_
  decide +kernel

/-- An extension with a dot, and a file that has it. -/
def tarSettings : Settings := { folders := ["."], extensions := ["tar.gz"] }

def tarDisk : Disk := ⟨.folder [("a.tar.gz", .file (some "x"))], []⟩

/-- The file is there, and yet its name stands for nothing. -/
theorem find_tarGz :
    tarSettings.check = .ok tarSettings ∧ "tar.gz" ∈ tarSettings.extensions ∧
      (Path.segments "a").getLast? ≠ some "" ∧ Path.isAbsolute "a.tar.gz" = false ∧
      Path.climbs "a.tar.gz" = false ∧ tarDisk.isFile (Path.join "." "a.tar.gz") = true ∧
      (Engine.ofSettings tarDisk tarSettings).finder.find tarDisk "a.tar.gz" = none := by
  decide +kernel

end Finder

end Folio
