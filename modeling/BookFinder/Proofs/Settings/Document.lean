import BookFinder.Proofs.Entries
import BookFinder.Proofs.Yaml.Scalars
import BookFinder.Settings.Document

/-! # What a document says about the settings

Sections are members of the document, and settings are members of their sections. A layer is read
from a document exactly if each of its settings is what its member is read as, or open where there
is no such member. -/

namespace BookFinder.Settings

open Yaml (Node Scalar)

variable {document : Yaml.Document}

/-! ## Values -/

/-- The node is, or refers to, a scalar that is such a value. -/
inductive Holds {α : Type} (document : Yaml.Document) (Is : Scalar → α → Prop) (node : Node)
    (value : α) : Prop
  | intro {anchor : Option Nat} {scalar : Scalar}
      (h : document.resolve node = some (.scalar anchor scalar)) (hvalue : Is scalar value)

/-- Any scalar is a text, as it is written. -/
def IsText (scalar : Scalar) (text : String) : Prop := scalar.text = text.toList

theorem isText_iff {scalar : Scalar} {text : String} :
    IsText scalar text ↔ String.ofList scalar.text = text := by
  rw [IsText, String.ext_iff, String.toList_ofList]

theorem scalarOf_eq_some_iff {node : Node} {scalar : Scalar} :
    scalarOf document node = some scalar ↔
      ∃ anchor, document.resolve node = some (.scalar anchor scalar) := by
  rw [scalarOf.eq_def]
  constructor
  · intro h
    split at h
    · rename_i anchor value hnode
      exact ⟨anchor, Option.some.inj h ▸ hnode⟩
    · cases h
  · rintro ⟨anchor, h⟩
    rw [h]

theorem scalarOf_bind_eq_some_iff {α : Type} {read : Scalar → Option α} {Is : Scalar → α → Prop}
    (hread : ∀ scalar value, read scalar = some value ↔ Is scalar value) {node : Node} {value : α} :
    (scalarOf document node).bind read = some value ↔ Holds document Is node value := by
  simp only [Option.bind_eq_some_iff, scalarOf_eq_some_iff, hread]
  constructor
  · rintro ⟨scalar, ⟨anchor, h⟩, hvalue⟩
    exact .intro h hvalue
  · rintro ⟨h, hvalue⟩
    exact ⟨_, ⟨_, h⟩, hvalue⟩

theorem readText_eq_some_iff {node : Node} {text : String} :
    readText document node = some text ↔ Holds document IsText node text := by
  rw [readText, Option.map_eq_bind]
  refine scalarOf_bind_eq_some_iff ?_
  intro scalar text
  rw [isText_iff, Function.comp_apply, Option.some.injEq]

theorem readProxy_eq_some_iff {node : Node} {value : Option String} :
    readProxy document node = some value ↔
      Holds document Scalar.IsOptionalText node value := by
  refine scalarOf_bind_eq_some_iff ?_
  intro scalar value
  rw [← Scalar.isNull_iff]
  simp only [Option.bind_eq_bind, Option.bind_eq_some_iff]
  refine exists_congr fun null => and_congr_right fun _ => ?_
  cases null <;> simp

theorem readBool_eq_some_iff {node : Node} {value : Bool} :
    readBool document node = some value ↔ Holds document Scalar.IsBool node value :=
  scalarOf_bind_eq_some_iff fun _ _ => Scalar.bool_eq_some_iff

theorem readFloat_eq_some_iff {node : Node} {value : Binary64} :
    readFloat document node = some value ↔ Holds document Scalar.IsFloat node value :=
  scalarOf_bind_eq_some_iff fun _ _ => Scalar.float_eq_some_iff

/-- The number that a reader of small numbers gives is kept in a type of that size. -/
theorem readNat_map_eq_some_iff {α : Type} {bound : Nat} {ofNat : Nat → α} {toNat : α → Nat}
    (hlt : ∀ value, toNat value < bound) (hofNat : ∀ n < bound, toNat (ofNat n) = n)
    (htoNat : ∀ value, ofNat (toNat value) = value) {node : Node} {value : α} :
    (readNat document bound node).map ofNat = some value ↔
      Holds document (fun scalar value => Scalar.IsNatural scalar (toNat value)) node value := by
  rw [readNat, Option.map_bind]
  refine scalarOf_bind_eq_some_iff ?_
  intro scalar value
  rw [Function.comp_apply, Option.map_eq_some_iff]
  simp only [Scalar.nat_eq_some_iff]
  constructor
  · rintro ⟨n, ⟨hn, hnatural⟩, rfl⟩
    rwa [hofNat n hn]
  · intro h
    exact ⟨toNat value, ⟨hlt value, h⟩, htoNat value⟩

/-! ## Members -/

/-- A node is a mapping with these members, all of whose keys are scalars, or an empty text, which
is as good as a mapping without members. -/
inductive HasMembers (document : Yaml.Document) (node : Node) : List (String × Node) → Prop
  | mapping {anchor : Option Nat} {entries : List (Node × Node)} {members : List (String × Node)}
      (h : document.resolve node = some (.mapping anchor entries))
      (hmembers : List.Forall₂ (fun entry member =>
        Holds document IsText entry.1 member.1 ∧ entry.2 = member.2) entries members) :
      HasMembers document node members
  | empty {anchor : Option Nat} {value : Scalar}
      (h : document.resolve node = some (.scalar anchor value)) (htext : value.text = []) :
      HasMembers document node []

theorem readEntry_eq_some_iff {entry : Node × Node} {member : String × Node} :
    ((scalarOf document entry.1).map fun name => (String.ofList name.text, entry.2)) =
        some member ↔
      Holds document IsText entry.1 member.1 ∧ entry.2 = member.2 := by
  obtain ⟨name, value⟩ := member
  rw [← readText_eq_some_iff, readText]
  cases scalarOf document entry.1 <;> simp

theorem membersOf_eq_some_iff {node : Node} {members : List (String × Node)} :
    membersOf document node = some members ↔ HasMembers document node members := by
  constructor
  · intro h
    rw [membersOf.eq_def] at h
    split at h
    · rename_i hnode
      refine .mapping hnode ?_
      simpa only [mapM_eq_some_iff, readEntry_eq_some_iff] using h
    · rename_i hnode
      obtain ⟨htext, hmembers⟩ := Option.ite_none_right_eq_some.mp h
      obtain rfl := Option.some.inj hmembers
      exact .empty hnode (List.isEmpty_iff.mp htext)
    · cases h
  · intro h
    cases h with
    | mapping h hmembers =>
        rw [membersOf, h]
        simpa only [mapM_eq_some_iff, readEntry_eq_some_iff] using hmembers
    | empty h htext =>
        rw [membersOf, h]
        exact if_pos (List.isEmpty_iff.mpr htext)

section Member

variable {α β : Type} {name : String} {members : List (String × Node)}

theorem filter_named : members.filter (·.1 ∈ [name]) = members.filter (·.1 == name) := by
  simp [beq_eq_decide]

/-- One member at most has the name, and what is given is what its node stands for; without such a
member nothing is given. -/
def HasField (name : String) (Stands : Node → α → Prop) (members : List (String × Node))
    (given : Option α) : Prop :=
  Gives [name] (fun node given => ∃ value, Stands node value ∧ some value = given) none members
    given

theorem readMember_eq_some_iff {read : Node → Option α} {Stands : Node → α → Prop}
    (hread : ∀ node value, read node = some value ↔ Stands node value) {given : Option α} :
    readMember members name read = some given ↔ HasField name Stands members given := by
  rw [HasField, gives_iff_filter, filter_named, readMember]
  simp only [← hread]
  cases members.filter (·.1 == name) with
  | nil => exact ⟨fun h => (Option.some.inj h).symm, fun h => h ▸ rfl⟩
  | cons member found =>
      cases found with
      | nil => exact Option.map_eq_some_iff
      | cons next found => simp

/-- What a member is read as may be converted before or after it is looked up. -/
theorem readMember_map (f : α → β) (read : Node → Option α) :
    (readMember members name read).map (Option.map f) =
      readMember members name fun node => (read node).map f := by
  rw [readMember.eq_def, readMember.eq_def]
  split
  · rfl
  · rw [Option.map_map, Option.map_map]
    rfl
  · rfl

theorem hasField_nil {Stands : Node → α → Prop} {given : Option α} :
    HasField name Stands [] given ↔ given = none := gives_nil

end Member

/-! ## Sections -/

structure GeneralSays (document : Yaml.Document) (members : List (String × Node)) (layer : Layer) :
    Prop where
  debug : HasField "debug" (Holds document Scalar.IsBool) members layer.debug

structure ServerSays (document : Yaml.Document) (members : List (String × Node)) (layer : Layer) :
    Prop where
  tcpPort : HasField "port" (Holds document fun scalar value =>
    Scalar.IsNatural scalar value.toNat) members layer.tcpPort
  bindAddress : HasField "bind_address" (Holds document IsText) members layer.bindAddress

structure CatalogSays (document : Yaml.Document) (members : List (String × Node)) (layer : Layer) :
    Prop where
  baseUrl : HasField "base_url" (Holds document IsText) members layer.baseUrl
  requestTimeout : HasField "request_timeout" (Holds document Scalar.IsFloat) members
    layer.requestTimeout
  poolSize : HasField "pool_maxsize" (Holds document fun scalar value =>
    Scalar.IsNatural scalar value.toNat) members layer.poolSize
  verifySsl : HasField "verify_ssl" (Holds document Scalar.IsBool) members layer.verifySsl
  proxy : HasField "proxy" (Holds document Scalar.IsOptionalText) members layer.proxy
  userAgent : HasField "user_agent" (Holds document IsText) members layer.userAgent
  maxPages : HasField "max_pages" (Holds document fun scalar value =>
    Scalar.IsNatural scalar value.toNat) members layer.maxPages

/-! ### The readers of the fields -/

section Reading

variable {name : String} {members : List (String × Node)}

theorem readMember_text {given : Option String} :
    readMember members name (readText document) = some given ↔
      HasField name (Holds document IsText) members given :=
  readMember_eq_some_iff fun _ _ => readText_eq_some_iff

theorem readMember_bool {given : Option Bool} :
    readMember members name (readBool document) = some given ↔
      HasField name (Holds document Scalar.IsBool) members given :=
  readMember_eq_some_iff fun _ _ => readBool_eq_some_iff

theorem readMember_float {given : Option Binary64} :
    readMember members name (readFloat document) = some given ↔
      HasField name (Holds document Scalar.IsFloat) members given :=
  readMember_eq_some_iff fun _ _ => readFloat_eq_some_iff

theorem readMember_proxy {given : Option (Option String)} :
    readMember members name (readProxy document) = some given ↔
      HasField name (Holds document Scalar.IsOptionalText) members given :=
  readMember_eq_some_iff fun _ _ => readProxy_eq_some_iff

theorem readMember_nat {α : Type} {bound : Nat} {ofNat : Nat → α} {toNat : α → Nat}
    (hlt : ∀ value, toNat value < bound) (hofNat : ∀ n < bound, toNat (ofNat n) = n)
    (htoNat : ∀ value, ofNat (toNat value) = value) {given : Option α} :
    (∃ found, readMember members name (readNat document bound) = some found ∧
        found.map ofNat = given) ↔
      HasField name (Holds document fun scalar value => Scalar.IsNatural scalar (toNat value))
        members given := by
  rw [← Option.map_eq_some_iff, readMember_map]
  exact readMember_eq_some_iff fun _ _ => readNat_map_eq_some_iff hlt hofNat htoNat

end Reading

def Layer.withGeneral (base part : Layer) : Layer := { base with debug := part.debug }

def Layer.withServer (base part : Layer) : Layer :=
  { base with tcpPort := part.tcpPort, bindAddress := part.bindAddress }

def Layer.withCatalog (base part : Layer) : Layer :=
  { base with
    baseUrl := part.baseUrl
    requestTimeout := part.requestTimeout
    poolSize := part.poolSize
    verifySsl := part.verifySsl
    proxy := part.proxy
    userAgent := part.userAgent
    maxPages := part.maxPages }

theorem readGeneral_eq_some_iff {base layer : Layer} {node : Node} :
    Layer.readGeneral document base node = some layer ↔
      ∃ members part, HasMembers document node members ∧ GeneralSays document members part ∧
        base.withGeneral part = layer := by
  simp only [Layer.readGeneral, Option.bind_eq_bind, Option.bind_eq_some_iff,
    membersOf_eq_some_iff, readMember_bool, Option.some.injEq]
  constructor
  · rintro ⟨members, hmembers, debug, hdebug, rfl⟩
    exact ⟨members, { debug }, hmembers, ⟨hdebug⟩, rfl⟩
  · rintro ⟨members, part, hmembers, hfields, rfl⟩
    exact ⟨members, hmembers, part.debug, hfields.debug, rfl⟩

theorem readServer_eq_some_iff {base layer : Layer} {node : Node} :
    Layer.readServer document base node = some layer ↔
      ∃ members part, HasMembers document node members ∧ ServerSays document members part ∧
        base.withServer part = layer := by
  have hport {members : List (String × Node)} {given : Option UInt16} :=
    @readMember_nat document "port" members _ _ _ _ UInt16.toNat_lt
      (fun _ hn => UInt16.toNat_ofNat_of_lt' hn) @UInt16.ofNat_toNat given
  simp only [Layer.readServer, Option.bind_eq_bind, Option.bind_eq_some_iff,
    membersOf_eq_some_iff, readMember_text, Option.some.injEq]
  constructor
  · rintro ⟨members, hmembers, found, hfound, bindAddress, haddress, rfl⟩
    exact ⟨members, { tcpPort := found.map UInt16.ofNat, bindAddress }, hmembers,
      ⟨hport.mp ⟨found, hfound, rfl⟩, haddress⟩, rfl⟩
  · rintro ⟨members, part, hmembers, hfields, rfl⟩
    obtain ⟨found, hfound, hpart⟩ := hport.mpr hfields.tcpPort
    exact ⟨members, hmembers, found, hfound, part.bindAddress, hfields.bindAddress,
      by rw [hpart, Layer.withServer]⟩

theorem readCatalog_eq_some_iff {base layer : Layer} {node : Node} :
    Layer.readCatalog document base node = some layer ↔
      ∃ members part, HasMembers document node members ∧ CatalogSays document members part ∧
        base.withCatalog part = layer := by
  have hsize {members : List (String × Node)} {given : Option UInt64} :=
    @readMember_nat document "pool_maxsize" members _ _ _ _ UInt64.toNat_lt
      (fun _ hn => UInt64.toNat_ofNat_of_lt' hn) @UInt64.ofNat_toNat given
  have hpages {members : List (String × Node)} {given : Option UInt32} :=
    @readMember_nat document "max_pages" members _ _ _ _ UInt32.toNat_lt
      (fun _ hn => UInt32.toNat_ofNat_of_lt' hn) @UInt32.ofNat_toNat given
  simp only [Layer.readCatalog, Option.bind_eq_bind, Option.bind_eq_some_iff,
    membersOf_eq_some_iff, readMember_text, readMember_bool, readMember_proxy, readMember_float,
    Option.some.injEq]
  constructor
  · rintro ⟨members, hmembers, size, hfoundSize, pages, hfoundPages, baseUrl, hurl, requestTimeout,
      htimeout, verifySsl, hverify, proxy, hproxy, userAgent, hagent, rfl⟩
    let part : Layer :=
      { baseUrl
        requestTimeout
        poolSize := size.map UInt64.ofNat
        verifySsl
        proxy
        userAgent
        maxPages := pages.map UInt32.ofNat }
    have hfields : CatalogSays document members part :=
      { baseUrl := hurl
        requestTimeout := htimeout
        poolSize := hsize.mp ⟨size, hfoundSize, rfl⟩
        verifySsl := hverify
        proxy := hproxy
        userAgent := hagent
        maxPages := hpages.mp ⟨pages, hfoundPages, rfl⟩ }
    exact ⟨members, part, hmembers, hfields, rfl⟩
  · rintro ⟨members, part, hmembers, hfields, rfl⟩
    obtain ⟨size, hfoundSize, hpartSize⟩ := hsize.mpr hfields.poolSize
    obtain ⟨pages, hfoundPages, hpartPages⟩ := hpages.mpr hfields.maxPages
    exact ⟨members, hmembers, size, hfoundSize, pages, hfoundPages, part.baseUrl, hfields.baseUrl,
      part.requestTimeout, hfields.requestTimeout, part.verifySsl, hfields.verifySsl,
      part.proxy, hfields.proxy, part.userAgent, hfields.userAgent,
      by rw [hpartSize, hpartPages, Layer.withCatalog]⟩

/-- A section that is missing is as good as one without members. -/
theorem readSection_iff {name : String} {sections : List (String × Node)}
    {read : Layer → Node → Option Layer} {Says : List (String × Node) → Layer → Prop}
    {update : Layer → Layer → Layer} {base layer : Layer}
    (hread : ∀ node, read base node = some layer ↔ ∃ members part,
      HasMembers document node members ∧ Says members part ∧ update base part = layer)
    (hnothing : Says [] {}) (hnil : ∀ part, Says [] part → update base part = base) :
    (∃ found, readMember sections name (read base) = some found ∧ found.getD base = layer) ↔
      ∃ members part, Gives [name] (HasMembers document) [] sections members ∧
        Says members part ∧ update base part = layer := by
  simp only [gives_iff_filter, filter_named, readMember]
  cases sections.filter (·.1 == name) with
  | nil =>
      constructor
      · rintro ⟨found, hfound, rfl⟩
        obtain rfl := Option.some.inj hfound
        exact ⟨[], {}, rfl, hnothing, hnil {} hnothing⟩
      · rintro ⟨members, part, rfl, hfields, rfl⟩
        exact ⟨none, rfl, (hnil part hfields).symm⟩
  | cons member found =>
      cases found with
      | nil => simpa [Option.map_eq_some_iff] using hread member.2
      | cons next found => simp

/-- The document says this about the settings, section by section. -/
inductive Says (document : Yaml.Document) (layer : Layer) : Prop
  | intro {sections general server catalog : List (String × Node)}
      (hsections : HasMembers document document.root sections)
      (hgeneral : Gives ["general"] (HasMembers document) [] sections general)
      (general : GeneralSays document general layer)
      (hserver : Gives ["server"] (HasMembers document) [] sections server)
      (server : ServerSays document server layer)
      (hcatalog : Gives ["catalog"] (HasMembers document) [] sections catalog)
      (catalog : CatalogSays document catalog layer)

theorem generalSays_nil : GeneralSays document [] {} := ⟨hasField_nil.mpr rfl⟩

theorem serverSays_nil : ServerSays document [] {} :=
  ⟨hasField_nil.mpr rfl, hasField_nil.mpr rfl⟩

theorem catalogSays_nil : CatalogSays document [] {} := by
  constructor <;> exact hasField_nil.mpr rfl

theorem GeneralSays.withGeneral_of_nil {part : Layer} (h : GeneralSays document [] part)
    (base : Layer) : base.withGeneral part = base.withGeneral {} := by
  rw [Layer.withGeneral, hasField_nil.mp h.debug]
  rfl

theorem ServerSays.withServer_of_nil {part : Layer} (h : ServerSays document [] part)
    (base : Layer) : base.withServer part = base.withServer {} := by
  rw [Layer.withServer, hasField_nil.mp h.tcpPort, hasField_nil.mp h.bindAddress]
  rfl

theorem CatalogSays.withCatalog_of_nil {part : Layer} (h : CatalogSays document [] part)
    (base : Layer) : base.withCatalog part = base.withCatalog {} := by
  rw [Layer.withCatalog, hasField_nil.mp h.baseUrl, hasField_nil.mp h.requestTimeout,
    hasField_nil.mp h.poolSize, hasField_nil.mp h.verifySsl, hasField_nil.mp h.proxy,
    hasField_nil.mp h.userAgent, hasField_nil.mp h.maxPages]
  rfl

theorem generalSection_iff {sections : List (String × Node)} {base layer : Layer}
    (hbase : base.withGeneral {} = base) :
    (∃ found, readMember sections "general" (Layer.readGeneral document base) = some found ∧
        found.getD base = layer) ↔
      ∃ members part, Gives ["general"] (HasMembers document) [] sections members ∧
        GeneralSays document members part ∧ base.withGeneral part = layer :=
  readSection_iff (fun _ => readGeneral_eq_some_iff) generalSays_nil fun _ h =>
    (h.withGeneral_of_nil base).trans hbase

theorem serverSection_iff {sections : List (String × Node)} {base layer : Layer}
    (hbase : base.withServer {} = base) :
    (∃ found, readMember sections "server" (Layer.readServer document base) = some found ∧
        found.getD base = layer) ↔
      ∃ members part, Gives ["server"] (HasMembers document) [] sections members ∧
        ServerSays document members part ∧ base.withServer part = layer :=
  readSection_iff (fun _ => readServer_eq_some_iff) serverSays_nil fun _ h =>
    (h.withServer_of_nil base).trans hbase

theorem catalogSection_iff {sections : List (String × Node)} {base layer : Layer}
    (hbase : base.withCatalog {} = base) :
    (∃ found, readMember sections "catalog" (Layer.readCatalog document base) = some found ∧
        found.getD base = layer) ↔
      ∃ members part, Gives ["catalog"] (HasMembers document) [] sections members ∧
        CatalogSays document members part ∧ base.withCatalog part = layer :=
  readSection_iff (fun _ => readCatalog_eq_some_iff) catalogSays_nil fun _ h =>
    (h.withCatalog_of_nil base).trans hbase

/-- A layer is read from a document exactly if the document says it. -/
theorem Layer.ofDocument_eq_some_iff {layer : Layer} :
    Layer.ofDocument document = some layer ↔ Says document layer := by
  simp only [Layer.ofDocument, Option.bind_eq_bind, Option.bind_eq_some_iff,
    membersOf_eq_some_iff, Option.some.injEq]
  -- each section is read on top of a layer that says nothing about it yet
  constructor
  · rintro ⟨sections, hsections, found, hfound, found', hfound', found'', hfound'', rfl⟩
    obtain ⟨general, part, hgiven, hfields, hbase⟩ :=
      (generalSection_iff rfl).mp ⟨found, hfound, rfl⟩
    rw [← hbase] at hfound' hfound'' ⊢
    obtain ⟨server, part', hgiven', hfields', hbase'⟩ :=
      (serverSection_iff rfl).mp ⟨found', hfound', rfl⟩
    rw [← hbase'] at hfound'' ⊢
    obtain ⟨catalog, part'', hgiven'', hfields'', hbase''⟩ :=
      (catalogSection_iff rfl).mp ⟨found'', hfound'', rfl⟩
    rw [← hbase'']
    exact .intro hsections hgiven ⟨hfields.debug⟩ hgiven'
      ⟨hfields'.tcpPort, hfields'.bindAddress⟩ hgiven''
      ⟨hfields''.baseUrl, hfields''.requestTimeout, hfields''.poolSize, hfields''.verifySsl,
        hfields''.proxy, hfields''.userAgent, hfields''.maxPages⟩
  · rintro ⟨hsections, hgiven, hfields, hgiven', hfields', hgiven'', hfields''⟩
    let general := ({} : Layer).withGeneral layer
    let server := general.withServer layer
    obtain ⟨found, hfound, hbase⟩ : ∃ found : Option Layer, _ ∧ found.getD {} = general :=
      (generalSection_iff rfl).mpr ⟨_, layer, hgiven, hfields, rfl⟩
    obtain ⟨found', hfound', hbase'⟩ : ∃ found : Option Layer, _ ∧ found.getD general = server :=
      (serverSection_iff rfl).mpr ⟨_, layer, hgiven', hfields', rfl⟩
    obtain ⟨found'', hfound'', hbase''⟩ : ∃ found : Option Layer, _ ∧ found.getD server = layer :=
      (catalogSection_iff rfl).mpr ⟨_, layer, hgiven'', hfields'', rfl⟩
    refine ⟨_, hsections, found, hfound, found', ?_, found'', ?_, ?_⟩
    · rwa [hbase]
    · rwa [hbase, hbase']
    · rw [hbase, hbase', hbase'']

/-! ## Texts -/

/-- A text says what its document says, or nothing if it holds none. -/
inductive TextSays (content : String) : Layer → Prop
  | nothing (h : Yaml.Document.read content = some none) : TextSays content {}
  | document {document : Yaml.Document} {layer : Layer}
      (h : Yaml.Document.read content = some (some document)) (hfields : Says document layer) :
      TextSays content layer

theorem Layer.read_eq_some_iff {content : String} {layer : Layer} :
    Layer.read content = some layer ↔ TextSays content layer := by
  rw [Layer.read]
  constructor
  · intro h
    obtain ⟨found, hfound, h⟩ := Option.bind_eq_some_iff.mp h
    cases found with
    | none => exact Option.some.inj h ▸ .nothing hfound
    | some document => exact .document hfound (Layer.ofDocument_eq_some_iff.mp h)
  · intro h
    cases h with
    | nothing h => rw [h]; rfl
    | document h hfields =>
        rw [h]
        exact Layer.ofDocument_eq_some_iff.mpr hfields

/-- A port in hexadecimal digits beside a member of no meaning, no proxy, and an empty section. -/
example : Layer.read "server:\n  port: 0x50\n  host: [a]\ncatalog:\n  proxy: ~\ngeneral:\n" =
    some { tcpPort := some 80, proxy := some none } := by
  decide +kernel

end BookFinder.Settings
