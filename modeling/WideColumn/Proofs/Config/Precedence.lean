import WideColumn.Proofs.Config.Validation
import WideColumn.Proofs.Except

/-! Where the settings of a site configuration come from. A dotted setting has its own value, in
front of the coordination setting that overrides it, and both in front of the conf files, of which
the last one that names a setting counts. Nothing else is a setting of the site. -/
namespace WideColumn.Config

open Configured (isNull shown)

variable {α : Type} [Configured α]

/-- The texts of the name and of the value of a property, if it has them. -/
abbrev Property := Option (List Char) × Option (List Char)

def propertiesOf (document : Xml.Node) : List Property :=
  (document.contentsOf "property".toList).map fun content =>
    (Xml.Node.childText? "name".toList content, Xml.Node.childText? "value".toList content)

/-- The name of a property is not empty, and without the blanks around it is the key. -/
def Names (key : String) (p : Property) : Prop :=
  ∃ name, p.1 = some name ∧ name ≠ [] ∧ String.ofList (Text.trim name) = key

/-- The value of a property without the blanks around it, or nothing if it has none. -/
def valueText (p : Property) : String := String.ofList (Text.trim (p.2.getD []))

/-- What the conf files have for a key: the value of the last property of that name, in the last
file that has one. -/
inductive Filed (documents : List Xml.Node) (key : String) : String → Prop
  | last {earlier later : List Xml.Node} {document : Xml.Node} {before after : List Property}
      {p : Property} (files : documents = earlier ++ document :: later)
      (lastFile : ∀ d ∈ later, ∀ q ∈ propertiesOf d, ¬ Names key q)
      (properties : propertiesOf document = before ++ p :: after)
      (lastHere : ∀ q ∈ after, ¬ Names key q) (named : Names key p) :
      Filed documents key (valueText p)

/-- The value that a dotted setting has of its own. Null is no value. -/
structure Own (settings : OrderedMap String α) (key : String) (value : α) : Prop where
  dotted : '.' ∈ key.toList
  present : settings.get? key = some value
  notNull : isNull value = false

/-- What a site configuration has for a key, by the layer that it comes from. -/
inductive Sets (documents : List Xml.Node) (settings : OrderedMap String α) (key : String) :
    String → Prop
  | own {value : α} {cs : List Char} (own : Own settings key value) (read : shown value = .ok cs) :
      Sets documents settings key (String.ofList cs)
  | coordination {name : String} {cs : List Char} (notOwn : ∀ value, ¬ Own settings key value)
      (overridden : (name, key) ∈ overrides) (given : Given settings name)
      (read : Tells settings name cs) :
      Sets documents settings key (String.ofList (Text.trim cs))
  | filed {text : String} (notOwn : ∀ value, ¬ Own settings key value)
      (notOverridden : ∀ name, (name, key) ∈ overrides → ¬ Given settings name)
      (filed : Filed documents key text) : Sets documents settings key text

/-- A conf file that is there, and the document that it holds. -/
def Holds (files : Files) (path : String) (document : Xml.Node) : Prop :=
  ∃ content, files.read path = .ok content ∧ Xml.parse content = .ok document

variable {documents : List Xml.Node} {settings : OrderedMap String α} {key text : String}

/-! The conf files. -/

/-- The site setting that a property writes, if it has a name. -/
def written? (p : Property) : Option (String × String) :=
  match p.1 with
  | none | some [] => none
  | some name => some (String.ofList (Text.trim name), valueText p)

theorem written?_eq_some_iff {p : Property} {set : String × String} :
    written? p = some set ↔ Names set.1 p ∧ set.2 = valueText p := by
  obtain ⟨name, value⟩ := p
  obtain ⟨key, text⟩ := set
  match name with
  | none => simp [written?, Names]
  | some [] => simp [written?, Names]
  | some (c :: cs) => simp [written?, Names, eq_comm]

theorem mem_written_iff {properties : List Property} :
    key ∈ (properties.filterMap written?).map Prod.fst ↔ ∃ p ∈ properties, Names key p := by
  constructor
  · intro member
    obtain ⟨set, isWritten, rfl⟩ := List.mem_map.mp member
    obtain ⟨p, isProperty, written⟩ := List.mem_filterMap.mp isWritten
    exact ⟨p, isProperty, (written?_eq_some_iff.mp written).1⟩
  · rintro ⟨p, isProperty, named⟩
    have written : written? p = some (key, valueText p) := written?_eq_some_iff.mpr ⟨named, rfl⟩
    exact List.mem_map.mpr ⟨_, List.mem_filterMap.mpr ⟨p, isProperty, written⟩, rfl⟩

theorem addFile_eq (site : Site) (document : Xml.Node) :
    site.addFile (confProperties document) =
      site.insertAll ((propertiesOf document).filterMap written?) := by
  rw [Site.addFile, confProperties, propertiesOf, OrderedMap.insertAll, List.foldl_filterMap,
    List.filterMap_map, List.foldl_filterMap]
  refine List.foldl_ext _ _ _ fun site content _ => ?_
  simp only [Function.comp_apply, written?, valueText]
  match Xml.Node.childText? "name".toList content with
  | none => rfl
  | some [] => rfl
  | some (c :: cs) => rfl

/-- The site settings that documents write, in their order. -/
def writtenBy (documents : List Xml.Node) : List (String × String) :=
  documents.flatMap fun document => (propertiesOf document).filterMap written?

theorem foldl_addFile (documents : List Xml.Node) (site : Site) :
    (documents.map confProperties).foldl Site.addFile site =
      site.insertAll (writtenBy documents) := by
  rw [writtenBy, OrderedMap.insertAll, List.foldl_flatMap, List.foldl_map]
  exact List.foldl_ext _ _ _ fun site document _ => addFile_eq site document

theorem mem_writtenBy_iff : key ∈ (writtenBy documents).map Prod.fst ↔
    ∃ d ∈ documents, ∃ p ∈ propertiesOf d, Names key p := by
  simp only [writtenBy, List.map_flatMap, List.mem_flatMap, mem_written_iff]

theorem exists_last {α : Type} {p : α → Prop} {as : List α} (some : ∃ a ∈ as, p a) :
    ∃ before a after, as = before ++ a :: after ∧ p a ∧ ∀ b ∈ after, ¬ p b := by
  induction as with
  | nil => simp at some
  | cons a as ih =>
    by_cases later : ∃ b ∈ as, p b
    · obtain ⟨before, b, after, rfl, isLast⟩ := ih later
      exact ⟨a :: before, b, after, rfl, isLast⟩
    · simp only [not_exists, not_and] at later
      obtain ⟨b, member, found⟩ := some
      rcases List.mem_cons.mp member with rfl | member
      · exact ⟨[], b, as, rfl, found, later⟩
      · exact absurd found (later b member)

theorem exists_filed (named : ∃ d ∈ documents, ∃ p ∈ propertiesOf d, Names key p) :
    ∃ text, Filed documents key text := by
  obtain ⟨earlier, document, later, files, named, lastFile⟩ := exists_last named
  obtain ⟨before, p, after, properties, named, lastHere⟩ := exists_last named
  simp only [not_exists, not_and] at lastFile
  exact ⟨_, .last files lastFile properties lastHere named⟩

theorem get?_filed (filed : Filed documents key text) :
    ((∅ : Site).insertAll (writtenBy documents)).get? key = some text := by
  obtain @⟨earlier, later, document, before, after, p, rfl, lastFile, properties, lastHere,
    named⟩ := filed
  have written : written? p = some (key, valueText p) := written?_eq_some_iff.mpr ⟨named, rfl⟩
  have parts : writtenBy (earlier ++ document :: later) =
      (writtenBy earlier ++ before.filterMap written?) ++
        (key, valueText p) :: (after.filterMap written? ++ writtenBy later) := by
    simp [writtenBy, properties, written]
  rw [parts]
  apply OrderedMap.get?_insertAll_of_last
  rw [List.map_append, List.mem_append, mem_written_iff, mem_writtenBy_iff]
  rintro (⟨q, member, again⟩ | ⟨d, isLater, q, member, again⟩)
  · exact lastHere q member again
  · exact lastFile d isLater q member again

/-- The conf files set what the last property of a name has. -/
theorem get?_writtenBy_iff :
    ((∅ : Site).insertAll (writtenBy documents)).get? key = some text ↔
      Filed documents key text := by
  refine ⟨fun found => ?_, get?_filed⟩
  by_cases named : ∃ d ∈ documents, ∃ p ∈ propertiesOf d, Names key p
  · obtain ⟨last, filed⟩ := exists_filed named
    cases found.symm.trans (get?_filed filed)
    exact filed
  · rw [← mem_writtenBy_iff] at named
    cases (OrderedMap.get?_insertAll_of_notMem named ∅).symm.trans found

/-! The settings over the conf files. -/

theorem Tells.unique {cs other : List Char} (tells : Tells settings key cs)
    (again : Tells settings key other) : cs = other := by
  obtain ⟨value, present, -, text⟩ := tells
  obtain ⟨same, found, -, text'⟩ := again
  cases present.symm.trans found
  exact Except.ok.inj (text.symm.trans text')

theorem mem_overridden_iff : (key, text) ∈ overrides.filterMap (overridden? settings) ↔
    ∃ name cs, (name, key) ∈ overrides ∧ Given settings name ∧ Tells settings name cs ∧
      String.ofList (Text.trim cs) = text := by
  rw [List.mem_filterMap]
  constructor
  · rintro ⟨⟨name, site⟩, overridden, selected⟩
    obtain ⟨_, here, ⟨⟩⟩ := Option.map_eq_some_iff.mp selected
    obtain ⟨cs, tells, visible, trimmed⟩ := textAt?_eq_some_iff.mp here
    exact ⟨name, cs, overridden, ⟨cs, tells, visible⟩, tells, trimmed⟩
  · rintro ⟨name, cs, overridden, ⟨other, tells', visible⟩, tells, trimmed⟩
    obtain rfl := tells.unique tells'
    have here : textAt? settings name = some text :=
      textAt?_eq_some_iff.mpr ⟨cs, tells, visible, trimmed⟩
    exact ⟨(name, key), overridden, by simp [overridden?, here]⟩

theorem mem_passed_iff (distinct : settings.keys.Nodup) :
    (key, text) ∈ settings.entries.filterMap passed? ↔
      ∃ value cs, Own settings key value ∧ shown value = .ok cs ∧ String.ofList cs = text := by
  rw [List.mem_filterMap]
  constructor
  · rintro ⟨⟨name, value⟩, member, selected⟩
    obtain ⟨dotted, notNull, cs, read, ⟨⟩⟩ := passed?_eq_some_iff.mp selected
    exact ⟨value, cs, ⟨dotted, (OrderedMap.get?_eq_some_iff distinct).mpr member, notNull⟩, read, rfl⟩
  · rintro ⟨value, cs, own, read, rfl⟩
    exact ⟨(key, value), (OrderedMap.get?_eq_some_iff distinct).mp own.present,
      passed?_eq_some_iff.mpr ⟨own.dotted, own.notNull, cs, read, rfl⟩⟩

/-- Where no coordination setting overrides a key, none that is there could. -/
theorem not_mem_overridden_iff :
    key ∉ (overrides.filterMap (overridden? settings)).map Prod.fst ↔
      ∀ name, (name, key) ∈ overrides → ¬ Given settings name := by
  rw [← not_iff_not, not_not]
  push Not
  constructor
  · intro member
    obtain ⟨⟨_, text⟩, selected, rfl⟩ := List.mem_map.mp member
    obtain ⟨name, cs, overridden, given, -⟩ := mem_overridden_iff.mp selected
    exact ⟨name, overridden, given⟩
  · rintro ⟨name, overridden, given⟩
    obtain ⟨cs, tells, -⟩ := id given
    exact List.mem_map_of_mem (mem_overridden_iff.mpr ⟨name, cs, overridden, given, tells, rfl⟩)

theorem not_mem_passed_iff (distinct : settings.keys.Nodup) (legible : LegibleDotted settings) :
    key ∉ (settings.entries.filterMap passed?).map Prod.fst ↔
      ∀ value, ¬ Own settings key value := by
  rw [← not_iff_not, not_not]
  push Not
  constructor
  · intro member
    obtain ⟨⟨_, text⟩, selected, rfl⟩ := List.mem_map.mp member
    obtain ⟨value, cs, own, -⟩ := (mem_passed_iff distinct).mp selected
    exact ⟨value, own⟩
  · rintro ⟨value, own⟩
    have member := (OrderedMap.get?_eq_some_iff distinct).mp own.present
    obtain ⟨cs, read⟩ := (legible _ member own.dotted).resolve_left (by simp [own.notNull])
    exact List.mem_map_of_mem ((mem_passed_iff distinct).mpr ⟨value, cs, own, read, rfl⟩)

/-! All layers. -/

theorem get?_insertAll_iff {m : Site} {entries : List (String × String)}
    (once : (entries.map Prod.fst).Nodup) : (m.insertAll entries).get? key = some text ↔
      (key, text) ∈ entries ∨ key ∉ entries.map Prod.fst ∧ m.get? key = some text := by
  have written : (m.update ⟨entries⟩).get? key = (OrderedMap.get? ⟨entries⟩ key).or (m.get? key) :=
    OrderedMap.get?_update once m key
  rw [← OrderedMap.find?_eq_none_iff, ← OrderedMap.get?_eq_some_iff (m := ⟨entries⟩) once]
  exact (iff_of_eq (congrArg (· = some text) written)).trans Option.or_eq_some_iff

theorem get?_layered_iff (distinct : settings.keys.Nodup) (legible : LegibleDotted settings) :
    (layered (documents.map confProperties) settings).get? key = some text ↔
      Sets documents settings key text := by
  rw [layered, foldl_addFile, get?_insertAll_iff ((passed_sublist settings).nodup distinct),
    get?_insertAll_iff (nodup_overridden settings), mem_passed_iff distinct,
    not_mem_passed_iff distinct legible, mem_overridden_iff, not_mem_overridden_iff,
    get?_writtenBy_iff]
  constructor
  · rintro (⟨value, cs, own, read, rfl⟩ |
      ⟨notOwn, ⟨name, cs, overridden, given, tells, rfl⟩ | ⟨notOverridden, filed⟩⟩)
    · exact .own own read
    · exact .coordination notOwn overridden given tells
    · exact .filed notOwn notOverridden filed
  · intro sets
    cases sets with
    | own own read => exact .inl ⟨_, _, own, read, rfl⟩
    | coordination notOwn overridden given tells =>
      exact .inr ⟨notOwn, .inl ⟨_, _, overridden, given, tells, rfl⟩⟩
    | filed notOwn notOverridden filed => exact .inr ⟨notOwn, .inr ⟨notOverridden, filed⟩⟩

theorem readConfFile_of_holds {files : Files} {path : String} {document : Xml.Node}
    (holds : Holds files path document) :
    readConfFile files path = .ok (confProperties document) := by
  obtain ⟨content, read, parsed⟩ := holds
  rw [readConfFile, read]
  simp [parsed, Except.mapError, Except.map]

theorem buildSite_of_holds {files : Files} {paths : List String}
    (listed : confPaths settings = .ok paths) (read : List.Forall₂ (Holds files) paths documents) :
    buildSite files settings =
      (Site.ofFiles (documents.map confProperties) settings).mapError .noText := by
  have each : paths.mapM (readConfFile files) = .ok (documents.map confProperties) := by
    apply mapM_of_forall₂
    rw [List.forall₂_map_right_iff]
    exact read.imp fun _ _ => readConfFile_of_holds
  rw [buildSite, listed]
  show (paths.mapM (readConfFile files) >>= fun properties =>
    (Site.ofFiles properties settings).mapError ConfFileError.noText) = _
  rw [each]
  rfl

theorem exists_holds {files : Files} {site : Site} (built : buildSite files settings = .ok site) :
    ∃ paths documents, confPaths settings = .ok paths ∧
      List.Forall₂ (Holds files) paths documents := by
  obtain ⟨paths, listed, built⟩ := bind_eq_ok_iff.mp built
  obtain ⟨properties, evaluated, -⟩ := bind_eq_ok_iff.mp built
  have each := forall₂_of_mapM evaluated
  rw [mapError_eq_ok_iff] at listed
  suffices all : ∃ documents, List.Forall₂ (Holds files) paths documents by
    obtain ⟨documents, read⟩ := all
    exact ⟨paths, documents, listed, read⟩
  clear evaluated built listed
  induction each with
  | nil => exact ⟨[], .nil⟩
  | @cons path _ _ _ read _ ih =>
    obtain ⟨documents, others⟩ := ih
    rw [readConfFile] at read
    split at read
    · cases read
    · next content found =>
      obtain ⟨document, parsed, -⟩ := map_eq_ok_iff.mp read
      exact ⟨document :: documents, .cons ⟨content, found, mapError_eq_ok_iff.mp parsed⟩ others⟩

/-- When all conf files can be read, a site configuration is built exactly when the coordination
settings and the dotted settings have texts. It has for every key what the first layer has that sets
it: the text of a dotted setting of that name; the coordination setting that overrides it, without
the blanks around it; the last property of that name in the last file that has one. It has no other
keys, and a key without a dot only where a conf file names it. -/
theorem site_precedence {files : Files} {settings : OrderedMap String α} {paths : List String}
    {documents : List Xml.Node} (distinct : settings.keys.Nodup)
    (listed : confPaths settings = .ok paths) (read : List.Forall₂ (Holds files) paths documents) :
    ((∃ site, buildSite files settings = .ok site) ↔
      (∀ key ∈ coordinationKeys, LegibleAt settings key) ∧ LegibleDotted settings) ∧
    ∀ site, buildSite files settings = .ok site →
      (∀ key text, site.get? key = some text ↔ Sets documents settings key text) ∧
      (∀ key ∈ site.keys, ∃ text, Sets documents settings key text) ∧
      ∀ key ∈ site.keys, '.' ∉ key.toList → ∃ text, Filed documents key text := by
  simp only [buildSite_of_holds listed read, mapError_eq_ok_iff, ofFiles_eq_ok_iff]
  constructor
  · constructor
    · rintro ⟨_, legible, dotted, -⟩
      exact ⟨legible, dotted⟩
    · rintro ⟨legible, dotted⟩
      exact ⟨_, legible, dotted, rfl⟩
  rintro _ ⟨-, legible, rfl⟩
  have sets (key text : String) := @get?_layered_iff _ _ documents _ key text distinct legible
  refine ⟨sets, fun key isKey => ?_, fun key isKey plain => ?_⟩
  · obtain ⟨text, found⟩ := OrderedMap.mem_keys_iff.mp isKey
    exact ⟨text, (sets key text).mp found⟩
  · obtain ⟨text, found⟩ := OrderedMap.mem_keys_iff.mp isKey
    cases (sets key text).mp found with
    | own own _ => exact absurd own.dotted plain
    | coordination _ overridden _ _ =>
      have dotted : ∀ o ∈ overrides, '.' ∈ o.2.toList := by decide
      exact absurd (dotted _ overridden) plain
    | filed _ _ filed => exact ⟨text, filed⟩

/-- Settings that are blank or null leave the site setting to the layer below, and of the
properties of one name in two files the last one counts, though it has no value. -/
theorem site_precedence_layers :
    let settings : Settings := .ofList [("confFiles", .text "a,b"), ("zkQuorum", .text " zk "),
      ("zkZnodeParent", .text " "), ("hbase.zookeeper.quorum", .null),
      ("hbase.zookeeper.property.clientPort", .whole 1), ("zkClientPort", .whole 2)]
    let files : Files := { files := [
      (["a"], Utf8.ofString "<c><property><name>x</name><value>1</value></property></c>"),
      (["b"], Utf8.ofString ("<c><property><name> zookeeper.znode.parent</name>" ++
        "<value> /a </value></property><property><name>x </name></property></c>"))] }
    settings.keys.Nodup ∧ ∃ paths documents, confPaths settings = .ok paths ∧
      List.Forall₂ (Holds files) paths documents ∧
      Sets documents settings "hbase.zookeeper.property.clientPort" "1" ∧
      Sets documents settings "hbase.zookeeper.quorum" "zk" ∧
      Sets documents settings "zookeeper.znode.parent" "/a" ∧ Sets documents settings "x" "" ∧
      ∃ text, Filed documents "x" text := by
  intro settings files
  have distinct : settings.keys.Nodup := by decide +kernel
  have built : buildSite files settings = .ok ⟨[("x", ""), ("zookeeper.znode.parent", "/a"),
      ("hbase.zookeeper.quorum", "zk"), ("hbase.zookeeper.property.clientPort", "1")]⟩ := by
    decide +kernel
  obtain ⟨paths, documents, listed, read⟩ := exists_holds built
  obtain ⟨sets, -, filed⟩ := (site_precedence distinct listed read).2 _ built
  refine ⟨distinct, paths, documents, listed, read, ?_, ?_, ?_, ?_, ?_⟩
  · exact (sets _ _).mp rfl
  · exact (sets _ _).mp rfl
  · exact (sets _ _).mp rfl
  · exact (sets _ _).mp rfl
  · exact filed "x" (by decide) (by decide)

end WideColumn.Config
