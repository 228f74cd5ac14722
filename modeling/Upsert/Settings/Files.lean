import Upsert.Settings.Basic
import Upsert.Text.Path

/-!
# Settings from configuration files

Settings are read from the first configuration file of a search that exists and holds a
non-empty settings table. The search is a list of candidate file names, or one explicit name.
In the project file (the one that holds the settings of several tools) the settings table sits
under a tool path; in any other file it is the table of the settings section when there is one,
else the whole document. A file that exists but is no UTF-8 or no TOML ends the search in error,
and so do a step of the tool path that is present but no table and a name that refers to a
directory, which exists but cannot be opened as a file.

The library searches upsertkit.toml, then pyproject.toml (`Search.usual`), and reads the
environment with the prefix UPSERTKIT_ (`Settings.usualPrefix`).
-/

namespace Upsert

/-- The content of a file: text, or raw bytes to be decoded as UTF-8. -/
inductive FileContent where
  | text (t : Text)
  | bytes (b : List Nat)

/-- A directory of files by name. -/
abbrev Folder := List (Text × FileContent)

/-- Where the settings are looked for. -/
structure Search where
  /-- The candidate names when no explicit name is given, in order. -/
  candidates : List Text
  /-- The name of the project file. -/
  projectFile : Text
  /-- The path of the settings table in the project file. -/
  toolPath : List Text
  /-- The name of the settings section in any other file. -/
  sectionName : Text

/-- The search the library makes: upsertkit.toml, then pyproject.toml with the settings under
tool.upsertkit.upsert; in any other file, the section upsert. -/
def Search.usual : Search :=
  { candidates := [Text.ofString "upsertkit.toml", Text.ofString "pyproject.toml"],
    projectFile := Text.ofString "pyproject.toml",
    toolPath := [Text.ofString "tool", Text.ofString "upsertkit", Text.ofString "upsert"],
    sectionName := Text.ofString "upsert" }

/-- The text of a file, decoded. -/
def FileContent.read : FileContent → Except Fault Text
  | .text t => pure t
  | .bytes b => (Text.decodeUtf8 b).mapError .undecodable

/-- The last part of a path. -/
def baseName (t : Text) : Text := ⟨((Text.splitSlash t.points).getLast?).getD []⟩

/-- The file a name refers to in the folder, if it exists. -/
def Folder.find? (dir : Folder) (name : Text) : Option FileContent :=
  let key := Text.normalizePath name
  (List.find? (fun (n, _) => Text.normalizePath n = key) dir).map (·.2)

/-- Whether a name refers to a directory: the folder itself, or a folder above it. The folder holds
files only, so no other name does. -/
def namesDirectory (name : Text) : Bool :=
  let key := Text.normalizePath name
  key = Text.ofString "." || (Text.splitSlash key.points).all (· = [46, 46])

/-- Follows a path of keys through nested tables; a missing key gives none, an intermediate value
that is no table cannot be looked into. -/
def followPath (v : Value) : List Text → Except Fault Value
  | [] => pure v
  | k :: rest =>
    match v with
    | .dict entries =>
      match entries.lookup k with
      | some w => if rest.isEmpty then pure w else followPath w rest
      | none => if rest.isEmpty then pure .none else followPath (.dict []) rest
    | w => throw (.noAttribute w.qualifiedTypeName "get")

/-- The fault of a document that could not be read. -/
def Toml.Failure.fault : Toml.Failure → Fault
  | .malformed e => .malformedToml e
  | .tooDeep => .nestedTooDeep
  | .tooManyDigits n => .tooManyDigits n

/-- The settings table of a document read from the file `name`. -/
def Search.extract (sr : Search) (name : Text) (doc : List (Text × Value)) : Except Fault Value :=
  if baseName (Text.normalizePath name) = sr.projectFile then followPath (.dict doc) sr.toolPath
  else
    match doc.lookup sr.sectionName with
    | some (.dict t) => pure (.dict t)
    | _ => pure (.dict doc)

/-- The settings table of the search: that of the first existing candidate whose table is not
empty, or of the last existing candidate, or none. A directory stops the search, as opening it
fails. -/
def Search.table (sr : Search) (dir : Folder) (names : List Text) : Except Fault Value :=
  go names .none
where
  go : List Text → Value → Except Fault Value
    | [], found => pure found
    | n :: ns, found =>
      if namesDirectory n then throw (.isDirectory (Text.normalizePath n)) else
      match dir.find? n with
      | none => go ns found
      | some content => do
        let text ← content.read
        let doc ← (Toml.read text).mapError Toml.Failure.fault
        let cfg ← sr.extract n doc
        if cfg.truthy then pure cfg else go ns cfg

namespace Settings

/-- Settings read from configuration files: defaults, with the settings table applied. -/
def fromFiles (sr : Search) (dir : Folder) (explicit : Option Text) : Logged Settings :=
  let names := match explicit with
    | some n => [n]
    | none => sr.candidates
  match sr.table dir names with
  | .ok cfg => ({} : Settings).applyTable cfg
  | .error e => ⟨.error e, []⟩

/-- The prefix of the environment variables the library reads settings from. -/
def usualPrefix : Text := Text.ofString "UPSERTKIT_"

/-- Settings read from configuration files, then from the environment. -/
def load (sr : Search) (dir : Folder) (explicit : Option Text) (env : List (Text × Text))
    (pre : Text) : Logged Settings :=
  let first := fromFiles sr dir explicit
  match first.result with
  | .ok s =>
    let second := fromEnvironment env s pre
    ⟨second.result, first.logs ++ second.logs⟩
  | .error e => ⟨.error e, first.logs⟩

end Settings

end Upsert
