import WideColumn.Proofs.Config.Texts
import WideColumn.Proofs.OrderedMap
import WideColumn.Service.Basic

/-! Which settings can be used. Validation, the list of conf files and the site configuration agree
on what it means that a setting is there; all three need the texts of what they read. -/
namespace WideColumn.Config

open Configured (isNull items? shown)

variable {α : Type} [Configured α] {value : α} {settings : OrderedMap String α} {key text : String}

/-! The paths of the conf files. -/

/-- The values whose texts the paths are made of: the items of a list or a tuple, or else the value
itself. -/
def listed (value : α) : List α := if isNull value then [] else (items? value).getD [value]

theorem exists_listedPaths_iff :
    (∃ paths, listedPaths value = .ok paths) ↔ ∀ part ∈ listed value, Legible part := by
  unfold listedPaths listed
  cases isNull? : isNull value with
  | true => simp
  | false =>
    cases items? value with
    | none => simp [exists_map_iff, Legible, isNull?]
    | some items => simp [filterMapM_eq_ok_iff, exists_visible?_iff]

theorem exists_confPaths_iff : (∃ paths, confPaths settings = .ok paths) ↔
    ∀ value, settings.get? confFilesKey = some value → ∀ part ∈ listed value, Legible part := by
  unfold confPaths
  cases settings.get? confFilesKey with
  | none => simp
  | some value => simp [exists_listedPaths_iff]

/-- A path is a text without blanks around it, and without commas unless it was an item. -/
theorem path_of_listedPaths {paths : List String} {path : String}
    (evaluated : listedPaths value = .ok paths) (member : path ∈ paths) :
    path ≠ "" ∧ Text.Trimmed path.toList ∧ (items? value = none → ',' ∉ path.toList) := by
  unfold listedPaths at evaluated
  cases isNull? : isNull value with
  | true =>
    rw [isNull?] at evaluated
    cases evaluated
    cases member
  | false =>
    rw [isNull?, if_neg Bool.false_ne_true] at evaluated
    rw [ne_eq, ← String.toList_eq_nil_iff]
    cases isList : items? value with
    | some items =>
      rw [isList] at evaluated
      obtain ⟨-, rfl⟩ := filterMapM_eq_ok_iff.mp evaluated
      obtain ⟨item, -, isPath⟩ := List.mem_filterMap.mp member
      obtain ⟨-, cs, -, visible, rfl⟩ := visible?_eq_some_iff.mp (toOption_join_eq_some.mp isPath)
      rw [String.toList_ofList]
      exact ⟨trim_ne_nil visible, Text.trim_trimmed cs, nofun⟩
    | none =>
      rw [isList] at evaluated
      obtain ⟨cs, -, rfl⟩ := map_eq_ok_iff.mp evaluated
      obtain ⟨trimmed, kept, rfl⟩ := List.mem_map.mp member
      obtain ⟨isTrimmed, nonempty⟩ := List.mem_filter.mp kept
      obtain ⟨part, isPart, rfl⟩ := List.mem_map.mp isTrimmed
      rw [String.toList_ofList]
      refine ⟨by simpa using nonempty, Text.trim_trimmed part, fun _ comma => ?_⟩
      exact Text.not_mem_of_mem_splitOn isPart (Text.trim_subset part comma)

theorem path_of_confPaths {paths : List String} {path : String}
    (evaluated : confPaths settings = .ok paths) (member : path ∈ paths) :
    path ≠ "" ∧ Text.Trimmed path.toList ∧
      ((∀ value, settings.get? confFilesKey = some value → items? value = none) →
        ',' ∉ path.toList) := by
  unfold confPaths at evaluated
  split at evaluated
  · cases evaluated
    cases member
  · next value present =>
    obtain ⟨filled, trimmed, plain⟩ := path_of_listedPaths evaluated member
    exact ⟨filled, trimmed, fun alone => plain (alone value present)⟩

/-! The verdict. -/

/-- Validation in terms of what is there. -/
theorem validate_eq_ok_iff {verdict : Verdict} : validate settings = .ok verdict ↔
    ∃ paths, confPaths settings = .ok paths ∧ if paths ≠ [] then verdict = .ok () else
      (∀ key ∈ coordinationKeys, LegibleAt settings key) ∧ .ofMissing (missing settings) = verdict := by
  rw [validate, bind_eq_ok_iff]
  refine exists_congr fun paths => and_congr_right fun _ => ?_
  cases paths with
  | cons path rest => simp [pure, Except.pure, eq_comm]
  | nil =>
    simp only [List.isEmpty_nil, Bool.not_true, Bool.false_eq_true, if_false, bind_eq_ok_iff,
      filterMapM_missingAt?, ne_eq, not_true_eq_false, pure, Except.pure, Except.ok.injEq]
    exact ⟨fun ⟨_, ⟨legible, same⟩, verdict⟩ => ⟨legible, same ▸ verdict⟩,
      fun ⟨legible, verdict⟩ => ⟨_, ⟨legible, rfl⟩, verdict⟩⟩

theorem exists_validate_iff : (∃ verdict, validate settings = .ok verdict) ↔
    ∃ paths, confPaths settings = .ok paths ∧
      (paths = [] → ∀ key ∈ coordinationKeys, LegibleAt settings key) := by
  simp only [validate_eq_ok_iff]
  constructor
  · rintro ⟨verdict, paths, evaluated, reached⟩
    refine ⟨paths, evaluated, fun none => ?_⟩
    rw [if_neg (not_not_intro none)] at reached
    exact reached.1
  · rintro ⟨paths, evaluated, legible⟩
    by_cases none : paths = []
    · exact ⟨_, paths, evaluated, by rw [if_neg (not_not_intro none)]; exact ⟨legible none, rfl⟩⟩
    · exact ⟨_, paths, evaluated, by rw [if_pos none]⟩

theorem ofMissing_eq_ok_iff : Verdict.ofMissing (missing settings) = .ok () ↔
    ∀ key ∈ coordinationKeys, Given settings key := by
  rw [← missing_eq_nil_iff, Verdict.ofMissing]
  split
  · next all =>
    have filled : missing settings ≠ [] := by
      intro none
      rw [none] at all
      cases all
    exact iff_of_false nofun filled
  · split
    · next none => exact iff_of_true rfl (List.isEmpty_iff.mp none)
    · next some => exact iff_of_false nofun (mt List.isEmpty_iff.mpr some)

/-- When some of the coordination settings are there, the reason names those that are not. -/
theorem ofMissing_of_given (given : ∃ key ∈ coordinationKeys, Given settings key)
    (invalid : Verdict.ofMissing (missing settings) ≠ .ok ()) :
    Verdict.ofMissing (missing settings) = .error (.incomplete (missing settings)) := by
  have some : missing settings ≠ [] := by
    rw [ne_eq, missing_eq_nil_iff, ← ofMissing_eq_ok_iff]
    exact invalid
  have notAll : (missing settings).length ≠ coordinationKeys.length := by
    intro all
    obtain ⟨key, member, given⟩ := given
    exact missing_eq_iff.mp (List.filter_sublist.eq_of_length all) key member given
  rw [Verdict.ofMissing, if_neg notAll, if_neg (mt List.isEmpty_iff.mp some)]

theorem isValid_eq {verdict : Verdict} (reached : validate settings = .ok verdict) :
    isValid settings = verdict.toBool := by
  rw [isValid, reached]

theorem invalidReason?_eq {verdict : Verdict} (reached : validate settings = .ok verdict) :
    invalidReason? settings = verdict.reason? := by
  rw [invalidReason?, reached]
  rfl

theorem toBool_iff {verdict : Verdict} : verdict.toBool = true ↔ verdict = .ok () := by
  cases verdict with
  | error invalid => exact iff_of_false Bool.false_ne_true nofun
  | ok => exact iff_of_true rfl rfl

theorem isValid_iff {paths : List String} {verdict : Verdict}
    (evaluated : confPaths settings = .ok paths) (reached : validate settings = .ok verdict) :
    isValid settings = true ↔ paths ≠ [] ∨ ∀ key ∈ coordinationKeys, Given settings key := by
  rw [isValid_eq reached, toBool_iff]
  obtain ⟨_, same, verdict⟩ := validate_eq_ok_iff.mp reached
  cases evaluated.symm.trans same
  split at verdict
  · next some => exact iff_of_true verdict (.inl some)
  · next none =>
    obtain ⟨-, rfl⟩ := verdict
    rw [ofMissing_eq_ok_iff]
    exact (or_iff_right none).symm

/-- The reason of an incomplete configuration names the coordination settings that are missing. -/
theorem reason_incomplete (missing : List String) : (Invalid.incomplete missing).reason =
    "zkQuorum, zkClientPort, zkZnodeParent must " ++
      "be specified together when confFiles is not set; missing: " ++
        ", ".intercalate missing := by
  have text : ", ".intercalate coordinationKeys ++ " must be specified together when " ++
      confFilesKey ++ " is not set; missing: " = "zkQuorum, zkClientPort, zkZnodeParent must " ++
        "be specified together when confFiles is not set; missing: " := by decide +kernel
  rw [Invalid.reason, text]

theorem invalidReason?_of_given {verdict : Verdict} (reached : validate settings = .ok verdict)
    (invalid : isValid settings = false) (given : ∃ key ∈ coordinationKeys, Given settings key) :
    invalidReason? settings = some (Invalid.incomplete (missing settings)).reason := by
  obtain ⟨paths, evaluated, found⟩ := validate_eq_ok_iff.mp reached
  have valid := isValid_iff evaluated reached
  rw [invalid, iff_false_left Bool.false_ne_true, not_or, not_not] at valid
  rw [if_neg (not_not_intro valid.1)] at found
  rw [invalidReason?_eq reached, ← found.2,
    ofMissing_of_given given (mt ofMissing_eq_ok_iff.mp valid.2), Verdict.reason?]

/-! The site configuration. -/

/-- The dotted settings can be read. -/
def LegibleDotted (settings : OrderedMap String α) : Prop :=
  ∀ e ∈ settings.entries, '.' ∈ e.1.toList → Legible e.2

/-- The site setting that a coordination setting sets, if it is there. -/
def overridden? (settings : OrderedMap String α) (o : String × String) : Option (String × String) :=
  (textAt? settings o.1).map (o.2, ·)

theorem overriding?_join {o : String × String} :
    (overriding? settings o).toOption.join = overridden? settings o := by
  unfold overriding? overridden? textAt?
  cases visibleAt? settings o.1 with
  | error e => rfl
  | ok text? => rfl

theorem forall_exists_overriding?_iff :
    (∀ o ∈ overrides, ∃ set, overriding? settings o = .ok set) ↔
      ∀ key ∈ coordinationKeys, LegibleAt settings key := by
  have named : overrides.map (·.1) = coordinationKeys := rfl
  rw [← named, List.forall_mem_map]
  exact forall₂_congr fun o _ => exists_map_iff.trans exists_visibleAt?_iff

/-- The site setting that a setting passes through to, if it does. -/
def passed? (e : String × α) : Option (String × String) := (passing? e).toOption.join

theorem exists_passing?_iff {e : String × α} :
    (∃ set, passing? e = .ok set) ↔ ('.' ∈ e.1.toList → Legible e.2) := by
  have dotted : isDotted e.1 = true ↔ '.' ∈ e.1.toList := List.contains_iff_mem
  rw [← dotted]
  unfold passing? Legible
  cases isDotted e.1 with
  | false => simp
  | true =>
    cases isNull e.2 with
    | true => simp
    | false => simp [exists_map_iff]

theorem passed?_eq_some_iff {e : String × α} {set : String × String} : passed? e = some set ↔
    '.' ∈ e.1.toList ∧ isNull e.2 = false ∧
      ∃ cs, shown e.2 = .ok cs ∧ (e.1, String.ofList cs) = set := by
  have dotted : isDotted e.1 = true ↔ '.' ∈ e.1.toList := List.contains_iff_mem
  rw [← dotted, passed?, toOption_join_eq_some]
  unfold passing?
  cases isDotted e.1 with
  | false => simp
  | true =>
    cases isNull e.2 with
    | true => simp
    | false => simp [map_eq_ok_iff]

/-- The site configuration of conf files and settings that can be read: what the files have, the
coordination settings over that, and the dotted settings over both. -/
def layered (files : List (List ConfProperty)) (settings : OrderedMap String α) : Site :=
  ((files.foldl Site.addFile ∅).insertAll (overrides.filterMap (overridden? settings))).insertAll
    (settings.entries.filterMap passed?)

theorem ofFiles_eq_ok_iff {files : List (List ConfProperty)} {site : Site} :
    Site.ofFiles files settings = .ok site ↔ (∀ key ∈ coordinationKeys, LegibleAt settings key) ∧
      LegibleDotted settings ∧ layered files settings = site := by
  rw [Site.ofFiles, bind_eq_ok_iff]
  simp only [Site.override, Site.passThrough, map_eq_ok_iff, filterMapM_eq_ok_iff,
    forall_exists_overriding?_iff, exists_passing?_iff, overriding?_join]
  constructor
  · rintro ⟨_, ⟨_, ⟨legible, rfl⟩, rfl⟩, _, ⟨dotted, rfl⟩, rfl⟩
    exact ⟨legible, dotted, rfl⟩
  · rintro ⟨legible, dotted, rfl⟩
    exact ⟨_, ⟨_, ⟨legible, rfl⟩, rfl⟩, _, ⟨dotted, rfl⟩, rfl⟩

/-- Settings that are selected keep their keys, and their order. -/
theorem keys_filterMap_sublist {β : Type} {f : β → Option (String × String)} {key : β → String}
    (keeps : ∀ b set, f b = some set → set.1 = key b) (bs : List β) :
    ((bs.filterMap f).map Prod.fst).Sublist (bs.map key) := by
  induction bs with
  | nil => exact .slnil
  | cons b bs ih =>
    rw [List.filterMap_cons, List.map_cons]
    cases selected : f b with
    | none => exact ih.cons _
    | some set =>
      rw [List.map_cons, keeps b set selected]
      exact ih.cons_cons _

theorem overridden_sublist (settings : OrderedMap String α) :
    ((overrides.filterMap (overridden? settings)).map Prod.fst).Sublist (overrides.map (·.2)) := by
  refine keys_filterMap_sublist (fun o set selected => ?_) overrides
  obtain ⟨text, -, rfl⟩ := Option.map_eq_some_iff.mp selected
  rfl

theorem passed_sublist (settings : OrderedMap String α) :
    ((settings.entries.filterMap passed?).map Prod.fst).Sublist settings.keys := by
  refine keys_filterMap_sublist (fun e set selected => ?_) settings.entries
  obtain ⟨-, -, cs, -, rfl⟩ := passed?_eq_some_iff.mp selected
  rfl

/-- No two coordination settings override the same setting. -/
theorem nodup_overridden (settings : OrderedMap String α) :
    ((overrides.filterMap (overridden? settings)).map Prod.fst).Nodup :=
  (overridden_sublist settings).nodup (by decide)

/-- A coordination setting that is there stands in the site configuration, unless a dotted setting
has the name of its site setting. -/
theorem get?_layered_of_textAt? {files : List (List ConfProperty)} {o : String × String}
    (isOverride : o ∈ overrides) (here : textAt? settings o.1 = some text)
    (other : o.2 ∉ settings.keys) : (layered files settings).get? o.2 = some text := by
  have written : (o.2, text) ∈ overrides.filterMap (overridden? settings) :=
    List.mem_filterMap.mpr ⟨o, isOverride, by simp [overridden?, here]⟩
  have found := (OrderedMap.get?_eq_some_iff (m := ⟨_⟩) (nodup_overridden settings)).mpr written
  rw [layered, OrderedMap.get?_insertAll_of_notMem fun member =>
    other ((passed_sublist settings).subset member)]
  exact (OrderedMap.get?_update (nodup_overridden settings) _ _).trans (by rw [found]; rfl)

theorem buildSite_of_noPaths (none : confPaths settings = .ok []) (files : Files) :
    buildSite files settings = (Site.ofFiles [] settings).mapError .noText := by
  rw [buildSite, none]
  rfl

theorem exists_buildSite_iff (none : confPaths settings = .ok [])
    (given : ∀ key ∈ coordinationKeys, Given settings key) (files : Files) :
    (∃ site, buildSite files settings = .ok site) ↔ LegibleDotted settings := by
  simp only [buildSite_of_noPaths none, mapError_eq_ok_iff, ofFiles_eq_ok_iff]
  constructor
  · rintro ⟨_, -, dotted, -⟩
    exact dotted
  · intro dotted
    exact ⟨_, fun key member => (given key member).legible, dotted, rfl⟩

/-- Each coordination setting that is there stands in a site configuration without conf files. -/
theorem get?_buildSite_of_given {files : Files} {site : Site} {o : String × String}
    (none : confPaths settings = .ok []) (built : buildSite files settings = .ok site)
    (given : ∀ key ∈ coordinationKeys, Given settings key) (isOverride : o ∈ overrides)
    (other : o.2 ∉ settings.keys) : ∃ cs, Tells settings o.1 cs ∧ Text.trim cs ≠ [] ∧
      site.get? o.2 = some (String.ofList (Text.trim cs)) := by
  rw [buildSite_of_noPaths none, mapError_eq_ok_iff, ofFiles_eq_ok_iff] at built
  obtain ⟨-, -, rfl⟩ := built
  have named : overrides.map (·.1) = coordinationKeys := rfl
  obtain ⟨cs, tells, visible⟩ := given o.1 (named ▸ List.mem_map_of_mem isOverride)
  have here := textAt?_eq_some_iff.mpr ⟨cs, tells, visible, rfl⟩
  exact ⟨cs, tells, trim_ne_nil visible, get?_layered_of_textAt? isOverride here other⟩

/-- Validation comes to a verdict exactly when the texts that it asks for are there: those of the
paths, and without a path those of the coordination settings. Then settings can be used exactly when
a conf file is named or all coordination settings are there, and if only some of them are there, the
reason names the others in their order. Each path of a conf file is a text without blanks around it,
and without commas unless it was an item of a list or a tuple. And where there is no conf file,
usable settings give a site configuration without a file being read, in which each coordination
setting stands as its trimmed text; it fails only where a dotted setting has no text. -/
theorem validation_agrees (settings : OrderedMap String α) :
    ((∃ paths, confPaths settings = .ok paths) ↔
      ∀ value, settings.get? confFilesKey = some value → ∀ part ∈ listed value, Legible part) ∧
    ((∃ verdict, validate settings = .ok verdict) ↔ ∃ paths, confPaths settings = .ok paths ∧
      (paths = [] → ∀ key ∈ coordinationKeys, LegibleAt settings key)) ∧
    ∀ paths, confPaths settings = .ok paths →
      (∀ path ∈ paths, path ≠ "" ∧ Text.Trimmed path.toList ∧
        ((∀ value, settings.get? confFilesKey = some value → items? value = none) →
          ',' ∉ path.toList)) ∧
      ∀ verdict, validate settings = .ok verdict →
        (isValid settings = true ↔ paths ≠ [] ∨ ∀ key ∈ coordinationKeys, Given settings key) ∧
        (isValid settings = false → (∃ key ∈ coordinationKeys, Given settings key) →
          invalidReason? settings = some ("zkQuorum, zkClientPort, zkZnodeParent must " ++
            "be specified together when confFiles is not set; missing: " ++
            ", ".intercalate (coordinationKeys.filter fun key => ¬ Given settings key))) ∧
        (isValid settings = true → paths = [] → (∀ o ∈ overrides, o.2 ∉ settings.keys) →
          (∀ files, buildSite files settings = buildSite {} settings) ∧
          ((∃ site, buildSite {} settings = .ok site) ↔ LegibleDotted settings) ∧
          ∀ site, buildSite {} settings = .ok site → ∀ o ∈ overrides, ∃ cs,
            Tells settings o.1 cs ∧ Text.trim cs ≠ [] ∧
              site.get? o.2 = some (String.ofList (Text.trim cs))) := by
  refine ⟨exists_confPaths_iff, exists_validate_iff, fun paths evaluated => ⟨?_, ?_⟩⟩
  · intro path member
    exact path_of_confPaths evaluated member
  · intro verdict reached
    have valid := isValid_iff evaluated reached
    refine ⟨valid, fun invalid given => ?_, fun isValid none other => ?_⟩
    · rw [invalidReason?_of_given reached invalid given, reason_incomplete, missing]
    · subst none
      have given := (valid.mp isValid).resolve_left (not_not_intro rfl)
      refine ⟨fun files => ?_, exists_buildSite_iff evaluated given {}, ?_⟩
      · rw [buildSite_of_noPaths evaluated, buildSite_of_noPaths evaluated]
      · intro site built o isOverride
        exact get?_buildSite_of_given evaluated built given isOverride (other o isOverride)

/-- Coordination settings of several kinds, with blanks around them, beside a list of conf files
that are all blank; and the same settings without a port. -/
theorem validation_agrees_mixed :
    let settings : Settings := .ofList [("confFiles", .list [.text " ", .null]),
      ("zkQuorum", .text " zk1,zk2 "), ("zkClientPort", .whole 2181), ("zkZnodeParent", .bytes [])]
    let partial? : Settings := .ofList [("confFiles", .text " ,,"), ("zkQuorum", .text "zk1"),
      ("zkClientPort", .text "\t")]
    isValid settings = true ∧
      (∀ files, ∃ site, buildSite files settings = .ok site ∧
        site.get? "hbase.zookeeper.quorum" = some "zk1,zk2") ∧
      invalidReason? partial? = some ("zkQuorum, zkClientPort, zkZnodeParent must be " ++
        "specified together when confFiles is not set; missing: zkClientPort, zkZnodeParent") := by
  intro settings partial?
  have valid : isValid settings = true := by decide +kernel
  have listed : confPaths settings = .ok [] := by decide +kernel
  have reached : validate settings = .ok (.ok ()) := by decide +kernel
  obtain ⟨-, -, agrees⟩ := validation_agrees settings
  obtain ⟨alike, builds, texts⟩ := ((agrees [] listed).2 _ reached).2.2 valid rfl (by decide +kernel)
  have plain : ∀ e ∈ settings.entries, '.' ∉ e.1.toList := by decide +kernel
  obtain ⟨site, built⟩ := builds.mpr fun e member dotted => absurd dotted (plain e member)
  refine ⟨valid, fun files => ⟨site, (alike files).trans built, ?_⟩, ?_⟩
  · obtain ⟨cs, ⟨value, present, -, shown⟩, -, written⟩ :=
      texts site built ("zkQuorum", "hbase.zookeeper.quorum") (.head _)
    have same : settings.get? "zkQuorum" = some (.text " zk1,zk2 ") := rfl
    cases present.symm.trans same
    cases shown
    exact written.trans (congrArg some (by decide +kernel))
  · obtain ⟨-, -, agrees⟩ := validation_agrees partial?
    have listed : confPaths partial? = .ok [] := by decide +kernel
    have reached : validate partial? =
        .ok (.error (.incomplete ["zkClientPort", "zkZnodeParent"])) := by decide +kernel
    refine (((agrees [] listed).2 _ reached).2.1 (by decide +kernel) ⟨"zkQuorum", .head _, ?_⟩).trans ?_
    · decide +kernel
    · decide +kernel

/-- Values, and tuples of values beside them. -/
inductive OrTuple
  | single (value : Value)
  | tuple (items : List Value)

namespace OrTuple

def items? : OrTuple → Option (List OrTuple)
  | single (.list items) => some (items.map single)
  | single _ => none
  | tuple items => some (items.map single)

def shown : OrTuple → Except Text.IntegerError (List Char)
  | single value => value.shown
  | tuple items =>
    let stop := if items.length = 1 then [',', ')'] else [')']
    if Value.haveTexts items then
      .ok ('(' :: Value.joinWith [',', ' '] (Value.displayItems items) ++ stop)
    else .error .unwritable

instance : Configured OrTuple where
  isNull
    | single value => value.isNull
    | tuple _ => false
  items? := items?
  shown := shown

end OrTuple

/-- Of settings that can be used, one that is dotted may be a number without a text, or one may have
a key that is no text; then there is no site configuration. Such a number in the place of a
coordination setting keeps validation from a verdict. And an item of a tuple, which is no list, may
be a path with a comma. -/
theorem usable_without_site :
    let usual : List (String × Value) :=
      [("zkQuorum", .text "zk1"), ("zkClientPort", .text "2181"), ("zkZnodeParent", .text "/hbase")]
    let long : Value := .whole (Nat.pow 10 4300)
    let dotted : Settings := .ofList (usual ++ [("a.b", long)])
    let stray := GivenSettings.ofEntries (usual.map (fun e => (.text e.1, e.2)) ++
      [(.whole 5, .text "x")])
    let service : Service :=
      { name := "s", settings := stray.named, backend := .gateway, strayKey := stray.strayKey }
    (isValid dotted = true ∧ confPaths dotted = .ok [] ∧ (∀ o ∈ overrides, o.2 ∉ dotted.keys) ∧
      buildSite {} dotted = .error (.noText .unwritable)) ∧
    validate (.ofList [("zkQuorum", long)]) = .error .unwritable ∧
    (isValid stray.named = true ∧ confPaths stray.named = .ok [] ∧
      (∀ o ∈ overrides, o.2 ∉ stray.named.keys) ∧
      (Client.gatewayAddress {} ⟨service, {}, {}⟩).1.mapError Fault.kind = .error "TypeError") ∧
    confPaths (.ofList [("confFiles", OrTuple.tuple [.text "a,b"])]) = .ok ["a,b"] := by
  decide +kernel

end WideColumn.Config
