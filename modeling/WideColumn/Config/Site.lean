import WideColumn.Config.Validation
import WideColumn.Xml.Element

/-!
The site configuration of a connection: the properties of the conf files, the coordination settings
over them, and the dotted settings over both. It takes the texts of all these settings.
-/
namespace WideColumn

inductive ConfFileError
  | file (error : FileError)
  | document (error : Xml.Error)
  | noText (error : Text.IntegerError)
  deriving DecidableEq, Repr

namespace Config

open Configured (isNull shown)

variable {α : Type} [Configured α]

abbrev Site := OrderedMap String String

/-- A property of a conf file: its name, and its value if it has one. -/
abbrev ConfProperty := List Char × Option (List Char)

/-- The properties of a document, in order; those without a name are left out. -/
def confProperties (document : Xml.Node) : List ConfProperty :=
  (document.contentsOf "property".toList).filterMap fun content =>
    match Xml.Node.childText? "name".toList content with
    | none | some [] => none
    | some name => some (name, Xml.Node.childText? "value".toList content)

/-- Writes the properties of one file over a site configuration, without the blanks around names
and values. -/
def Site.addFile (site : Site) (properties : List ConfProperty) : Site :=
  properties.foldl
    (fun site p =>
      site.insert (String.ofList (Text.trim p.1)) (String.ofList (Text.trim (p.2.getD []))))
    site

def readConfFile (files : Files) (path : String) : Except ConfFileError (List ConfProperty) :=
  match files.read path with
  | .error e => .error (.file e)
  | .ok content => ((Xml.parse content).mapError .document).map confProperties

def siteQuorumKey : String := "hbase.zookeeper.quorum"
def siteClientPortKey : String := "hbase.zookeeper.property.clientPort"
def siteZnodeParentKey : String := "zookeeper.znode.parent"

/-- The site setting that each coordination setting overrides. -/
def overrides : List (String × String) :=
  [(quorumKey, siteQuorumKey), (clientPortKey, siteClientPortKey),
   (znodeParentKey, siteZnodeParentKey)]

/-- The site setting that a coordination setting sets, unless it is blank. -/
def overriding? (settings : OrderedMap String α) (o : String × String) :
    Except Text.IntegerError (Option (String × String)) :=
  (visibleAt? settings o.1).map (Option.map (o.2, ·))

/-- Writes the coordination settings that are not blank over a site configuration. -/
def Site.override (site : Site) (settings : OrderedMap String α) :
    Except Text.IntegerError Site :=
  (overrides.filterMapM (overriding? settings)).map site.insertAll

def isDotted (key : String) : Bool := key.toList.contains '.'

/-- The site setting that a dotted setting sets, unless it is null. -/
def passing? (e : String × α) : Except Text.IntegerError (Option (String × String)) :=
  if isDotted e.1 && !isNull e.2 then (shown e.2).map fun cs => some (e.1, String.ofList cs)
  else .ok none

def Site.passThrough (site : Site) (settings : OrderedMap String α) :
    Except Text.IntegerError Site :=
  (settings.entries.filterMapM passing?).map site.insertAll

def Site.ofFiles (files : List (List ConfProperty)) (settings : OrderedMap String α) :
    Except Text.IntegerError Site := do
  (← (files.foldl Site.addFile ∅).override settings).passThrough settings

def keyMismatch : Value → Mismatch
  | .bytes _ => .textPart
  | key => .notSearched key.typeName

def buildSite (files : Files) (settings : OrderedMap String α) : Except ConfFileError Site := do
  let paths ← (confPaths settings).mapError .noText
  let properties ← paths.mapM (readConfFile files)
  (Site.ofFiles properties settings).mapError .noText

end Config
end WideColumn
