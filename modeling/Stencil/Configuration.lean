import Stencil.Files.Basic
import Stencil.Files.Path
import Stencil.Toml.Document
import Stencil.View.Scene

/-!
# Configuration files

Settings can be given in a TOML document. What it does not say stays as it is, what it says beyond
the settings is passed over.

* `Settings.ofToml?` reads settings from a table, `Settings.ofConfiguration?` from a document.
* `Settings.load` gives the settings for a graph document.
-/

namespace Stencil

/-- Why there are no settings. -/
inductive ConfigurationError where
  | unreadable (path : String) (error : FileError)
  | invalid (path : String)
  deriving Repr, DecidableEq

/-- The wording of an error. -/
def ConfigurationError.message : ConfigurationError → String
  | .unreadable path error => "cannot read '" ++ path ++ "': " ++ error.message
  | .invalid path => "invalid config '" ++ path ++ "'"

/-- Reads a date. -/
def Calendar.Date.ofToml? (t : Toml) : Option Calendar.Date := do
  let text ← t.text?
  (Calendar.Date.readLoose text.toList).toOption

namespace Settings

/-- Reads settings; what is missing is as in `base`. -/
def ofToml? (base : Settings) (t : Toml.Table) : Option Settings := do
  let version ← t.read? "version" Toml.text?
  let graph ← t.read? "graph" Toml.text?
  let dateFormat ← t.read? "date_format" Toml.text?
  let today ← t.read? "today" Calendar.Date.ofToml?
  let language ← t.read? "language" Toml.text?
  some { version := version.getD base.version
         graph := graph.getD base.graph
         dateFormat := dateFormat.getD base.dateFormat
         today := today.getD base.today
         language := language.getD base.language }

/-- Reads settings from a document. -/
def ofConfiguration? (base : Settings) (document : String) : Option Settings := do
  base.ofToml? (← Toml.ofText? document)

/-- The settings for a graph document. A graph without a name has that of its file. -/
def forGraph (s : Settings) (path : String) : Settings :=
  if s.graph = "" then { s with graph := Path.stem path } else s

/-- The settings of a day, changed by the configuration file if there is one, for a graph
document. -/
def load {m : Type → Type} [Monad m] (files : Files m) (today : Calendar.Date)
    (configuration : Option String) (graph : String) : m (Except ConfigurationError Settings) := do
  match configuration with
  | none => return .ok (forGraph { today } graph)
  | some path =>
    match ← files.read path with
    | .error e => return .error (.unreadable path e)
    | .ok document =>
      match ofConfiguration? { today } document with
      | some s => return .ok (s.forGraph graph)
      | none => return .error (.invalid path)

end Settings

end Stencil
