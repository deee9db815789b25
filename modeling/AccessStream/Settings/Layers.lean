import AccessStream.Settings.Environment
import AccessStream.Settings.File
import AccessStream.Settings.Place

/-!
# Layers of settings

The settings are laid over each other from the lowest layer to the highest: the defaults, a file of
the user, a file of the project, a file of the checkout, and the environment. A file that is not
there is left out. Each setting comes from the highest layer that has it, and only what comes out of
all layers together must work.
-/

namespace AccessStream.Settings

/-- A file that may hold settings. -/
inductive Layer where
  /-- The file of the user. -/
  | user
  /-- The file of the project. -/
  | project
  /-- The file of the checkout, which is not shared. -/
  | checkout
  deriving DecidableEq, Repr

namespace Layer

/-- The layers of files, from the lowest to the highest. -/
def all : List Layer := [user, project, checkout]

/-- The name of a layer. -/
def name : Layer → String
  | user => "user"
  | project => "project"
  | checkout => "local"

/-- The name of the file of a layer. -/
def fileName : Layer → String
  | user => "config.toml"
  | project => "attrgate.toml"
  | checkout => "attrgate.local.toml"

end Layer

/-- Where settings are loaded from. -/
structure LayerOptions where
  /-- The directory of the project. -/
  projectDirectory : String
  /-- What the names of variables start with. -/
  variablePrefix : String := "ATTRGATE"
  /-- Whether the file of the user counts. -/
  includesUser : Bool := true
  /-- The home directory of the account, if it has one. -/
  accountHome : Option String := none

/-- The directory of the user's settings, if the user has a home directory: the one that the
environment names, or else that of the account. -/
def userDirectory? (environment : Environment) (accountHome : Option String) : Option String :=
  let home := ((environment.lookup "HOME").filter (!·.isEmpty)).or accountHome
  let directory := (environment.lookup "XDG_CONFIG_HOME").filter Path.isAbsolute
  home.map fun home => directory.getD (Path.join home ".config")

/-- The path of the file of a layer, if there can be one. -/
def Layer.path? (environment : Environment) (options : LayerOptions) : Layer → Option String
  | user =>
    (userDirectory? environment options.accountHome).map fun directory =>
      Path.join (Path.join directory "attrgate") user.fileName
  | layer => some (Path.join options.projectDirectory layer.fileName)

/-- Why the layers give no settings. -/
inductive LayerError where
  /-- A file is no TOML document. -/
  | unbuildable
  /-- A setting is not of its type. -/
  | mistyped
  /-- The settings cannot work. -/
  | flawed (flaw : Flaw)
  deriving DecidableEq, Repr

/-- The description of an error, apart from its cause. -/
def LayerError.message : LayerError → String
  | unbuildable => "Failed to build configuration"
  | mistyped => "Failed to deserialize configuration"
  | flawed _ => "Configuration failed validation"

/-- The bytes of a file without a byte order mark in front. -/
def dropMark : Bytes → Bytes
  | 0xEF :: 0xBB :: 0xBF :: rest => rest
  | content => content

/-- The layer that a file says. What is not UTF-8 in it reads as replacement characters. -/
def layerOfFile? (content : Bytes) : Option (Fields Raw) := do
  let document ← Toml.read? (Utf8.decodeLossy (dropMark content)) .extensible
  match ← Raw.ofToml? document with
  | .table entries => some entries
  | _ => none

/-- The settings that some files and the environment come to. -/
def ofLayers (options : LayerOptions) (environment : Environment) (files : List Bytes) :
    Except LayerError Settings :=
  match files.mapM layerOfFile? with
  | none => .error .unbuildable
  | some layers =>
    let lowest : Raw := Raw.layLayer (.table []) (toLayer {})
    let merged := layers.foldl Raw.layLayer lowest
    let merged := merged.layLayer (ofEnvironment options.variablePrefix environment)
    match Reading.lenient.settings? merged with
    | none => .error .mistyped
    | some settings => (settings.resolve options.projectDirectory).checked.mapError .flawed

/-- The paths of the files that count. -/
def layerPaths (options : LayerOptions) (environment : Environment) : List String :=
  (Layer.all.filter fun layer => layer ≠ .user || options.includesUser).filterMap
    (Layer.path? environment options)

variable {m : Type → Type} [Monad m]

/-- The content of the file of a layer, if there is one. In the place of a directory the file counts
whose name has the extension once more. -/
def findLayer (find : String → m Found) (path : String) : m (Option Bytes) := do
  match ← find path with
  | .file content => return some content
  | .nothing => return none
  | .directory =>
    match ← find (path ++ ".toml") with
    | .file content => return some content
    | _ => return none

/-- The contents of the files under some paths, as far as there are any. -/
def findLayers (find : String → m Found) : List String → m (List Bytes)
  | [] => return []
  | path :: paths => do
    let first ← findLayer find path
    let rest ← findLayers find paths
    return first.toList ++ rest

/-- The settings of all layers. -/
def load (find : String → m Found) (environment : Environment) (options : LayerOptions) :
    m (Except LayerError Settings) := do
  return ofLayers options environment (← findLayers find (layerPaths options environment))

end AccessStream.Settings
