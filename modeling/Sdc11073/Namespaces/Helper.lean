import Sdc11073.Namespaces.Text

/-!
# `NamespaceHelper` and `PrefixesEnum`

A `NamespaceHelper` is built from an enum of `PrefixNamespace`s and an optional default namespace.
It keeps two maps of the enum, namespace to prefix (`_prefix_map`, used to print) and prefix to
namespace (`ns_map`, the default map to read with), and declares maps for a choice of members
(`partial_map`), with the `None` entry for the default namespace. It prints a QName of the default
namespace bare.

The round trips rest on the enum, not on Python: distinct prefixes and namespaces, and no `:` in a
prefix. `PrefixTable` bundles these, `PrefixesEnum.prefixTable` is the stack's table, and the helper's
lemmas are stated over any table.

* `PrefixNamespace` (`tag`, `docName`), `PrefixesEnum` (`value`, `table`), `PrefixTable`;
* `NamespaceHelper.init` : `NamespaceHelper(prefixes_enum, default_ns)`; `member` and the member
  properties, `partialMap`, `docNameFromQname`, `textToQname`;
* `tagChecked`, `textToQnameChecked` : `tag` and the helper's read with lxml's check of the local
  name; `tagChecked_eq_ok_iff`, `textToQnameChecked_eq_ok_iff` : they return what `tag` and
  `textToQname` return, exactly for an XML name. Every XML name is `:`-free, so the round trips below,
  stated for `:`-free local names, cover every name lxml accepts;
* `get?_prefixMap`, `get?_nsMap`, `get?_nsMap_none`, `get?_partialMap_some`, `get?_partialMap_none`,
  `docNameFromQname_tag` : what the maps and the printer hold for the table's members;
* `textToQname_docNameFromQname_partialMap` : against `partial_map` of any members, the helper reads
  back every name it prints;
* `textToQname_docNameFromQname_nsMap` : against its own `ns_map` it does so exactly outside the
  default namespace; a bare name of the default namespace raises `KeyError`, since `ns_map` has no
  `None` entry; `docNameFromQname_textToQname_iff` : reading then printing;
* `get?_prefixMap_iff` : the two maps are inverse; `get?_partialMap` : what `partial_map` declares;
  `docnameFromQname_partialMap` : the module's `docname_from_qname` against `partial_map` prints every
  member's name with its prefix, the default namespace's too; `docNameFromQname_inj` : the helper
  prints no two names alike;
* `textToQname_partialMap_values_eq_ok_iff` : reading against `partial_map` of all members reads what
  `ns_map` reads and the bare names of the default namespace besides.
-/

namespace Sdc11073

set_option autoImplicit false

/-- `PrefixNamespace`: its `prefix` and its `namespace`. -/
structure PrefixNamespace where
  pfx : String
  ns : String
  deriving DecidableEq, Repr

namespace PrefixNamespace

/-- `tag(localname)`, with lxml's check of the local name left out (`tagChecked`). -/
def tag (p : PrefixNamespace) (localname : String) : QName := ⟨some p.ns, localname⟩

/-- `tag(localname)` with lxml's check of the local name. -/
def tagChecked (lxml : TagNameCheck) (p : PrefixNamespace) (localname : String) : Except ValueError QName :=
  mkQName lxml (some p.ns) localname

/-- lxml builds `tag(localname)` exactly for an XML name. -/
theorem tagChecked_eq_ok_iff {lxml : TagNameCheck} {p : PrefixNamespace} {l : String} {q : QName} :
    p.tagChecked lxml l = .ok q ↔ p.tag l = q ∧ lxml.isValid l :=
  mkQName_eq_ok_iff lxml

/-- `doc_name(localname)`. -/
def docName (p : PrefixNamespace) (localname : String) : String :=
  if p.pfx ≠ "" then p.pfx ++ ":" ++ localname else localname

end PrefixNamespace

/-- `PrefixesEnum`. -/
inductive PrefixesEnum
  | MSG | PM | EXT | MDPWS | SDC | WSE | XSD | XSI | WSA | WSX | DPWS | WSD | S12 | XML | WXF | WSDL
  | WSDL12 | WSP
  deriving DecidableEq, Repr

namespace PrefixesEnum

/-- The member's value. -/
def value : PrefixesEnum → PrefixNamespace
  | MSG => ⟨"msg", "http://standards.ieee.org/downloads/11073/11073-10207-2017/message"⟩
  | PM => ⟨"dom", "http://standards.ieee.org/downloads/11073/11073-10207-2017/participant"⟩
  | EXT => ⟨"ext", "http://standards.ieee.org/downloads/11073/11073-10207-2017/extension"⟩
  | MDPWS => ⟨"mdpws", "http://standards.ieee.org/downloads/11073/11073-20702-2016"⟩
  | SDC => ⟨"sdc", "http://standards.ieee.org/downloads/11073/11073-20701-2018"⟩
  | WSE => ⟨"wse", "http://schemas.xmlsoap.org/ws/2004/08/eventing"⟩
  | XSD => ⟨"xsd", "http://www.w3.org/2001/XMLSchema"⟩
  | XSI => ⟨"xsi", "http://www.w3.org/2001/XMLSchema-instance"⟩
  | WSA => ⟨"wsa", "http://www.w3.org/2005/08/addressing"⟩
  | WSX => ⟨"wsx", "http://schemas.xmlsoap.org/ws/2004/09/mex"⟩
  | DPWS => ⟨"dpws", "http://docs.oasis-open.org/ws-dd/ns/dpws/2009/01"⟩
  | WSD => ⟨"wsd", "http://docs.oasis-open.org/ws-dd/ns/discovery/2009/01"⟩
  | S12 => ⟨"s12", "http://www.w3.org/2003/05/soap-envelope"⟩
  | XML => ⟨"xml", "http://www.w3.org/XML/1998/namespace"⟩
  | WXF => ⟨"wxf", "http://schemas.xmlsoap.org/ws/2004/09/transfer"⟩
  | WSDL => ⟨"wsdl", "http://schemas.xmlsoap.org/wsdl/"⟩
  | WSDL12 => ⟨"wsdl12", "http://schemas.xmlsoap.org/wsdl/soap12/"⟩
  | WSP => ⟨"wsp", "http://www.w3.org/ns/ws-policy"⟩

/-- The member's name. -/
def name : PrefixesEnum → String
  | MSG => "MSG" | PM => "PM" | EXT => "EXT" | MDPWS => "MDPWS" | SDC => "SDC" | WSE => "WSE"
  | XSD => "XSD" | XSI => "XSI" | WSA => "WSA" | WSX => "WSX" | DPWS => "DPWS" | WSD => "WSD"
  | S12 => "S12" | XML => "XML" | WXF => "WXF" | WSDL => "WSDL" | WSDL12 => "WSDL12" | WSP => "WSP"

/-- The members in declaration order, as iterating the enum gives them. -/
def members : List PrefixesEnum :=
  [MSG, PM, EXT, MDPWS, SDC, WSE, XSD, XSI, WSA, WSX, DPWS, WSD, S12, XML, WXF, WSDL, WSDL12, WSP]

theorem mem_members (p : PrefixesEnum) : p ∈ members := by
  cases p <;> decide

/-- The enum as `NamespaceHelper.__init__` reads it: each member's name and value. -/
def table : List (String × PrefixNamespace) := members.map fun p => (p.name, p.value)

end PrefixesEnum

/-- An enum of `PrefixNamespace`s with distinct names, prefixes and namespaces, and no `:` in a
prefix. -/
structure PrefixTable where
  members : List (String × PrefixNamespace)
  names_nodup : (members.map Prod.fst).Nodup
  prefixes_nodup : (members.map fun e => e.2.pfx).Nodup
  namespaces_nodup : (members.map fun e => e.2.ns).Nodup
  prefixes_colonFree : ∀ e ∈ members, ColonFree e.2.pfx

namespace PrefixTable

/-- The values of the table's members. -/
def values (T : PrefixTable) : List PrefixNamespace := T.members.map Prod.snd

variable (T : PrefixTable) {x y : PrefixNamespace}

theorem pfx_inj (hx : x ∈ T.values) (hy : y ∈ T.values) (h : x.pfx = y.pfx) : x = y := by
  obtain ⟨e, he, rfl⟩ := List.mem_map.mp hx
  obtain ⟨e', he', rfl⟩ := List.mem_map.mp hy
  rw [List.inj_on_of_nodup_map T.prefixes_nodup he he' h]

theorem ns_inj (hx : x ∈ T.values) (hy : y ∈ T.values) (h : x.ns = y.ns) : x = y := by
  obtain ⟨e, he, rfl⟩ := List.mem_map.mp hx
  obtain ⟨e', he', rfl⟩ := List.mem_map.mp hy
  rw [List.inj_on_of_nodup_map T.namespaces_nodup he he' h]

theorem colonFree_pfx (hx : x ∈ T.values) : ColonFree x.pfx := by
  obtain ⟨e, he, rfl⟩ := List.mem_map.mp hx
  exact T.prefixes_colonFree e he

end PrefixTable

/-- The stack's table. -/
def PrefixesEnum.prefixTable : PrefixTable where
  members := PrefixesEnum.table
  names_nodup := by decide
  prefixes_nodup := by decide
  namespaces_nodup := by decide
  prefixes_colonFree := by decide

theorem PrefixesEnum.prefixTable_members : prefixTable.members = table := rfl

theorem PrefixesEnum.value_mem_values (p : PrefixesEnum) : p.value ∈ prefixTable.values :=
  List.mem_map.mpr ⟨(p.name, p.value), List.mem_map.mpr ⟨p, mem_members p, rfl⟩, rfl⟩

theorem PrefixesEnum.mem_values_of_mem_map {S : List PrefixesEnum} :
    ∀ y ∈ S.map value, y ∈ prefixTable.values := fun _ hy => by
  obtain ⟨q, -, rfl⟩ := List.mem_map.mp hy
  exact value_mem_values q

/-- A `NamespaceHelper`: `_lookup` (member name to value), `_default_ns`, `_prefix_map` (namespace
to prefix) and `ns_map` (prefix to namespace). -/
structure NamespaceHelper where
  lookup : PyDict String PrefixNamespace
  defaultNs : Option String
  prefixMap : PyDict String String
  nsMap : PyDict (Option String) String

namespace NamespaceHelper

/-- `NamespaceHelper(prefixes_enum, default_ns)`. -/
def init (prefixes_enum : List (String × PrefixNamespace)) (default_ns : Option String := none) :
    NamespaceHelper :=
  let lookup := PyDict.ofList prefixes_enum
  { lookup := lookup
    defaultNs := default_ns
    prefixMap := PyDict.ofList (lookup.values.map fun x => (x.ns, x.pfx))
    nsMap := PyDict.ofList (lookup.values.map fun x => (some x.pfx, x.ns)) }

/-- `self._lookup[name]`, the body of each member property. -/
def member (h : NamespaceHelper) (name : String) : Except KeyError PrefixNamespace :=
  match h.lookup.get? name with
  | some x => .ok x
  | none => .error (.missing (some name))

/-! ### The member properties -/

def MSG (h : NamespaceHelper) := h.member "MSG"
def PM (h : NamespaceHelper) := h.member "PM"
def EXT (h : NamespaceHelper) := h.member "EXT"
def SDC (h : NamespaceHelper) := h.member "SDC"
def WSE (h : NamespaceHelper) := h.member "WSE"
def XSI (h : NamespaceHelper) := h.member "XSI"
def WSA (h : NamespaceHelper) := h.member "WSA"
def WSX (h : NamespaceHelper) := h.member "WSX"
def DPWS (h : NamespaceHelper) := h.member "DPWS"
def MDPWS (h : NamespaceHelper) := h.member "MDPWS"
def WSD (h : NamespaceHelper) := h.member "WSD"
def S12 (h : NamespaceHelper) := h.member "S12"
def XML (h : NamespaceHelper) := h.member "XML"
def WSDL (h : NamespaceHelper) := h.member "WSDL"
def WSDL12 (h : NamespaceHelper) := h.member "WSDL12"
def WSP (h : NamespaceHelper) := h.member "WSP"
def WXF (h : NamespaceHelper) := h.member "WXF"
def XSD (h : NamespaceHelper) := h.member "XSD"

/-- `partial_map(*prefix)`. -/
def partialMap (h : NamespaceHelper) (prefixes : List PrefixNamespace) : PyDict (Option String) String :=
  prefixes.foldl (fun ret p =>
    let ret := if some p.ns = h.defaultNs then ret.insert none p.ns else ret
    ret.insert (some p.pfx) p.ns) PyDict.empty

/-- `doc_name_from_qname(qname)`. -/
def docNameFromQname (h : NamespaceHelper) (qname : QName) : Except KeyError String :=
  if qname.ns.isSome ∧ qname.ns = h.defaultNs then .ok qname.localname
  else match qname.ns.bind h.prefixMap.get? with
    | some pfx => .ok (pfx ++ ":" ++ qname.localname)
    | none => .error (.missing qname.ns)

/-- `text_to_qname(text, nsmap)`: against `nsmap`, or `ns_map` where `nsmap` is `None` or empty. -/
def textToQname (h : NamespaceHelper) (text : String)
    (nsmap : Option (PyDict (Option String) String) := none) : Except KeyError QName :=
  let ns_map := match nsmap with
    | some m => if m.items = [] then h.nsMap else m
    | none => h.nsMap
  Sdc11073.textToQname text ns_map

/-- `text_to_qname(text, nsmap)` with lxml's check of the local name. -/
def textToQnameChecked (lxml : TagNameCheck) (h : NamespaceHelper) (text : String)
    (nsmap : Option (PyDict (Option String) String) := none) : Except ReadError QName :=
  let ns_map := match nsmap with
    | some m => if m.items = [] then h.nsMap else m
    | none => h.nsMap
  Sdc11073.textToQnameChecked lxml text ns_map

/-- The helper's read with lxml's check succeeds exactly where its read does with an XML name. -/
theorem textToQnameChecked_eq_ok_iff (lxml : TagNameCheck) (h : NamespaceHelper) (text : String)
    (nsmap : Option (PyDict (Option String) String)) {q : QName} :
    h.textToQnameChecked lxml text nsmap = .ok q ↔ h.textToQname text nsmap = .ok q ∧ lxml.isValid q.localname :=
  Sdc11073.textToQnameChecked_eq_ok_iff lxml

@[simp] theorem defaultNs_init (E : List (String × PrefixNamespace)) (d : Option String) :
    (init E d).defaultNs = d := rfl

/-! ## `partial_map` -/

/-- What `partial_map` assigns for one member: the `None` entry for the default namespace, then the
member's prefix. -/
def partialEntries (h : NamespaceHelper) (p : PrefixNamespace) : List (Option String × String) :=
  (if some p.ns = h.defaultNs then [(none, p.ns)] else []) ++ [(some p.pfx, p.ns)]

theorem partialMap_eq (h : NamespaceHelper) (prefixes : List PrefixNamespace) :
    h.partialMap prefixes = PyDict.ofList (prefixes.flatMap h.partialEntries) := by
  suffices ∀ ret : PyDict (Option String) String,
      prefixes.foldl (fun ret p =>
        (if some p.ns = h.defaultNs then ret.insert none p.ns else ret).insert (some p.pfx) p.ns) ret =
      (prefixes.flatMap h.partialEntries).foldl (fun d e => d.insert e.1 e.2) ret from this _
  induction prefixes with
  | nil => intro; rfl
  | cons p ps ih =>
    intro ret
    rw [List.foldl_cons, ih, List.flatMap_cons, List.foldl_append]
    congr 1
    by_cases hd : some p.ns = h.defaultNs <;> simp [partialEntries, hd]

@[simp] theorem mem_partialEntries (h : NamespaceHelper) {p : PrefixNamespace} {e : Option String × String} :
    e ∈ h.partialEntries p ↔ (e = (none, p.ns) ∧ some p.ns = h.defaultNs) ∨ e = (some p.pfx, p.ns) := by
  by_cases hd : some p.ns = h.defaultNs <;> simp [partialEntries, hd]

theorem get?_partialMap_none (h : NamespaceHelper) {prefixes : List PrefixNamespace} {x : PrefixNamespace}
    (hx : x ∈ prefixes) (hd : some x.ns = h.defaultNs) :
    (h.partialMap prefixes).get? none = some x.ns := by
  rw [partialMap_eq]
  refine PyDict.get?_ofList_of_unique (List.mem_flatMap.mpr ⟨x, hx, by simp [partialEntries, hd]⟩) ?_
  intro w hw
  obtain ⟨y, -, hy⟩ := List.mem_flatMap.mp hw
  by_cases hyd : some y.ns = h.defaultNs <;> simp [partialEntries, hyd] at hy
  exact Option.some.inj (hy ▸ hyd.trans hd.symm)

theorem get?_partialMap_some (h : NamespaceHelper) (T : PrefixTable) {prefixes : List PrefixNamespace}
    (hS : ∀ y ∈ prefixes, y ∈ T.values) {x : PrefixNamespace} (hx : x ∈ prefixes) :
    (h.partialMap prefixes).get? (some x.pfx) = some x.ns := by
  rw [partialMap_eq]
  refine PyDict.get?_ofList_of_unique (List.mem_flatMap.mpr ⟨x, hx, by simp [partialEntries]⟩) ?_
  intro w hw
  obtain ⟨y, hy, hyw⟩ := List.mem_flatMap.mp hw
  have hpy : y.pfx = x.pfx ∧ y.ns = w := by
    by_cases hyd : some y.ns = h.defaultNs <;> simpa [partialEntries, hyd, eq_comm] using hyw
  rw [← hpy.2, T.pfx_inj (hS y hy) (hS x hx) hpy.1]

/-- `partial_map` declares only what a member assigns. -/
theorem exists_of_get?_partialMap (h : NamespaceHelper) {prefixes : List PrefixNamespace} {k : Option String}
    {w : String} (hw : (h.partialMap prefixes).get? k = some w) :
    ∃ y ∈ prefixes, ((k = none ∧ some y.ns = h.defaultNs) ∨ k = some y.pfx) ∧ y.ns = w := by
  rw [partialMap_eq] at hw
  obtain ⟨y, hy, he⟩ := List.mem_flatMap.mp (PyDict.mem_of_get?_ofList hw)
  simp only [mem_partialEntries, Prod.mk.injEq] at he
  exact ⟨y, hy, he.elim (fun he => ⟨.inl ⟨he.1.1, he.2⟩, he.1.2.symm⟩) fun he => ⟨.inr he.1, he.2.symm⟩⟩

/-! ## The maps of a table -/

section Table

variable (T : PrefixTable) (d : Option String)

theorem values_ofList_members : (PyDict.ofList T.members).values = T.values := by
  rw [PyDict.values, PyDict.items_ofList T.names_nodup]; rfl

theorem get?_prefixMap {x : PrefixNamespace} (hx : x ∈ T.values) :
    (init T.members d).prefixMap.get? x.ns = some x.pfx := by
  simp only [init, values_ofList_members]
  exact PyDict.get?_ofList_map (fun _ hy _ hz h => T.ns_inj hy hz h) hx

theorem get?_nsMap {x : PrefixNamespace} (hx : x ∈ T.values) :
    (init T.members d).nsMap.get? (some x.pfx) = some x.ns := by
  simp only [init, values_ofList_members]
  exact PyDict.get?_ofList_map (fun _ hy _ hz h => T.pfx_inj hy hz (Option.some.inj h)) hx

/-- `ns_map` declares no default namespace. -/
theorem get?_nsMap_none (E : List (String × PrefixNamespace)) : (init E d).nsMap.get? none = none := by
  cases hn : (init E d).nsMap.get? none with
  | none => rfl
  | some v => simpa using PyDict.mem_of_get?_ofList hn

theorem member_init {name : String} {x : PrefixNamespace} (hx : (name, x) ∈ T.members) :
    (init T.members d).member name = .ok x := by
  have : (init T.members d).lookup.get? name = some x := by
    rw [PyDict.get?_eq_some_iff]; simpa [init, PyDict.items_ofList T.names_nodup] using hx
  simp [member, this]

theorem docNameFromQname_tag {x : PrefixNamespace} (hx : x ∈ T.values) (l : String) :
    (init T.members d).docNameFromQname (x.tag l) = .ok (if some x.ns = d then l else x.pfx ++ ":" ++ l) := by
  by_cases hd : some x.ns = d
  · subst hd; simp [docNameFromQname, PrefixNamespace.tag]
  · simp [docNameFromQname, PrefixNamespace.tag, hd, get?_prefixMap T d hx]

theorem exists_of_get?_prefixMap {ns pfx : String} (h : (init T.members d).prefixMap.get? ns = some pfx) :
    ∃ x ∈ T.values, x.ns = ns ∧ x.pfx = pfx := by
  simp only [init, values_ofList_members] at h
  obtain ⟨x, hx, hxe⟩ := List.mem_map.mp (PyDict.mem_of_get?_ofList h)
  exact ⟨x, hx, congrArg Prod.fst hxe, congrArg Prod.snd hxe⟩

theorem exists_of_get?_nsMap {k : Option String} {ns : String} (h : (init T.members d).nsMap.get? k = some ns) :
    ∃ x ∈ T.values, some x.pfx = k ∧ x.ns = ns := by
  simp only [init, values_ofList_members] at h
  obtain ⟨x, hx, hxe⟩ := List.mem_map.mp (PyDict.mem_of_get?_ofList h)
  exact ⟨x, hx, congrArg Prod.fst hxe, congrArg Prod.snd hxe⟩

/-- `_prefix_map` and `ns_map` are inverse to each other: a namespace prints with a prefix exactly
when the prefix reads back as the namespace. -/
theorem get?_prefixMap_iff {ns pfx : String} :
    (init T.members d).prefixMap.get? ns = some pfx ↔ (init T.members d).nsMap.get? (some pfx) = some ns := by
  constructor
  · intro h
    obtain ⟨x, hx, rfl, rfl⟩ := exists_of_get?_prefixMap T d h
    exact get?_nsMap T d hx
  · intro h
    obtain ⟨x, hx, hk, rfl⟩ := exists_of_get?_nsMap T d h
    cases Option.some.inj hk
    exact get?_prefixMap T d hx

/-- `partial_map(*prefixes)` maps each member's prefix to its namespace, and `None` to the default
namespace when one of the members has it, and declares nothing else. -/
theorem get?_partialMap {prefixes : List PrefixNamespace} (hS : ∀ y ∈ prefixes, y ∈ T.values)
    (k : Option String) :
    ((init T.members d).partialMap prefixes).get? k = match k with
      | none => (prefixes.find? fun y => some y.ns = d).map PrefixNamespace.ns
      | some p => (prefixes.find? fun y => y.pfx = p).map PrefixNamespace.ns := by
  cases k with
  | none =>
    cases hf : prefixes.find? (fun y => some y.ns = d) with
    | none =>
      refine Option.eq_none_iff_forall_not_mem.mpr fun w hw => ?_
      obtain ⟨y, hy, ⟨-, hyd⟩ | hyk, -⟩ := exists_of_get?_partialMap _ hw
      · exact List.find?_eq_none.mp hf y hy (by simpa using hyd)
      · cases hyk
    | some y =>
      exact get?_partialMap_none _ (List.mem_of_find?_eq_some hf) (by simpa using List.find?_some hf)
  | some p =>
    dsimp only
    cases hf : prefixes.find? (fun y => y.pfx = p) with
    | none =>
      refine Option.eq_none_iff_forall_not_mem.mpr fun w hw => ?_
      obtain ⟨y, hy, hyd | hyk, -⟩ := exists_of_get?_partialMap _ hw
      · cases hyd.1
      · exact List.find?_eq_none.mp hf y hy (by simpa using (Option.some.inj hyk).symm)
    | some y =>
      have hyp : y.pfx = p := by simpa using List.find?_some hf
      rw [← hyp]
      exact get?_partialMap_some _ T hS (List.mem_of_find?_eq_some hf)

theorem get?_partialMap_default :
    (∀ y ∈ [PrefixesEnum.MSG, PrefixesEnum.PM].map PrefixesEnum.value, y ∈ PrefixesEnum.prefixTable.values) ∧
    ((init PrefixesEnum.table (some PrefixesEnum.PM.value.ns)).partialMap
        ([PrefixesEnum.MSG, PrefixesEnum.PM].map PrefixesEnum.value)).get? none =
      (([PrefixesEnum.MSG, PrefixesEnum.PM].map PrefixesEnum.value).find?
        fun y => some y.ns = some PrefixesEnum.PM.value.ns).map PrefixNamespace.ns :=
  ⟨PrefixesEnum.mem_values_of_mem_map,
    get?_partialMap PrefixesEnum.prefixTable _ PrefixesEnum.mem_values_of_mem_map none⟩

/-- `docname_from_qname` against the map `partial_map` declares prints every member's name with the
member's prefix, in the default namespace too: `partial_map` assigns the `None` entry before the
member's prefix, and the inversion keeps the last key of a namespace. -/
theorem docnameFromQname_partialMap {prefixes : List PrefixNamespace} (hS : ∀ y ∈ prefixes, y ∈ T.values)
    {x : PrefixNamespace} (hx : x ∈ prefixes) (l : String) :
    docnameFromQname (x.tag l) ((init T.members d).partialMap prefixes) = x.pfx ++ ":" ++ l := by
  obtain ⟨s, t, rfl, hs⟩ := List.eq_append_cons_of_mem hx
  have hxT : x ∈ T.values := hS x (by simp)
  have hsT : ∀ y ∈ s, y ∈ T.values := fun y hy => hS y (by simp [hy])
  have htT : ∀ y ∈ t, y ∈ T.values := fun y hy => hS y (by simp [hy])
  have hsplit : (s ++ x :: t).flatMap (init T.members d).partialEntries =
      (s.flatMap (init T.members d).partialEntries ++ if some x.ns = d then [(none, x.ns)] else []) ++
        (some x.pfx, x.ns) :: t.flatMap (init T.members d).partialEntries := by
    by_cases hd : some x.ns = d <;> simp [partialEntries, hd]
  rw [partialMap_eq, hsplit]
  refine docnameFromQname_of_invert (PyDict.get?_invert_ofList ?_ ?_ ?_) l
  · simp only [List.map_append, List.mem_append, List.mem_map, List.mem_flatMap, mem_partialEntries,
      defaultNs_init]
    rintro (⟨e, ⟨y, hy, ⟨rfl, -⟩ | rfl⟩, he⟩ | ⟨e, he, hek⟩)
    · cases he
    · exact hs (T.pfx_inj (hsT y hy) hxT (Option.some.inj he) ▸ hy)
    · split_ifs at he <;> simp_all
  · simp only [List.mem_flatMap, mem_partialEntries, defaultNs_init]
    rintro e ⟨y, hy, ⟨rfl, -⟩ | rfl⟩ he
    · cases he
    · rw [T.pfx_inj (htT y hy) hxT (Option.some.inj he)]
  · simp only [List.mem_flatMap, mem_partialEntries, defaultNs_init]
    rintro e ⟨y, hy, ⟨rfl, hyd⟩ | rfl⟩ he
    · have hyx := T.ns_inj (htT y hy) hxT he
      subst hyx
      simp [hyd]
    · rw [T.ns_inj (htT y hy) hxT he]
      exact Or.inl rfl

theorem docnameFromQname_partialMap_pm :
    (∀ y ∈ [PrefixesEnum.MSG, PrefixesEnum.PM].map PrefixesEnum.value, y ∈ PrefixesEnum.prefixTable.values) ∧
    PrefixesEnum.PM.value ∈ [PrefixesEnum.MSG, PrefixesEnum.PM].map PrefixesEnum.value ∧
    docnameFromQname (PrefixesEnum.PM.value.tag "MdDescription")
        ((init PrefixesEnum.table (some PrefixesEnum.PM.value.ns)).partialMap
          ([PrefixesEnum.MSG, PrefixesEnum.PM].map PrefixesEnum.value)) =
      PrefixesEnum.PM.value.pfx ++ ":" ++ "MdDescription" := by
  have hx : PrefixesEnum.PM.value ∈ [PrefixesEnum.MSG, PrefixesEnum.PM].map PrefixesEnum.value :=
    List.mem_map_of_mem _ (by simp)
  exact ⟨PrefixesEnum.mem_values_of_mem_map, hx,
    docnameFromQname_partialMap PrefixesEnum.prefixTable _ PrefixesEnum.mem_values_of_mem_map hx _⟩

/-! ## Round trips -/

/-- Against the map `partial_map` declares for any of the table's members, the helper reads back
every name it prints for one of them. -/
theorem textToQname_docNameFromQname_partialMap_of_prefixTable {prefixes : List PrefixNamespace}
    (hS : ∀ y ∈ prefixes, y ∈ T.values) {x : PrefixNamespace} (hx : x ∈ prefixes) {l : String}
    (hl : ColonFree l) :
    ((init T.members d).docNameFromQname (x.tag l) >>= fun t =>
      (init T.members d).textToQname t (some ((init T.members d).partialMap prefixes))) = .ok (x.tag l) := by
  have hsome := get?_partialMap_some (init T.members d) T hS hx
  have hne : ((init T.members d).partialMap prefixes).items ≠ [] := fun he => by
    simp [PyDict.get?, he] at hsome
  rw [docNameFromQname_tag T d (hS x hx)]
  by_cases hd : some x.ns = d
  · subst hd
    simp [textToQname, hne, textToQname_bare hl, get?_partialMap_none _ hx (defaultNs_init _ _).symm,
      PrefixNamespace.tag]
  · simp [hd, textToQname, hne, textToQname_prefixed (T.colonFree_pfx (hS x hx)) hl, hsome,
      PrefixNamespace.tag]

/-- Against its own `ns_map` the helper reads back what it prints outside the default namespace; a
bare name of the default namespace raises `KeyError`. -/
theorem textToQname_docNameFromQname_nsMap {x : PrefixNamespace} (hx : x ∈ T.values) {l : String}
    (hl : ColonFree l) :
    ((init T.members d).docNameFromQname (x.tag l) >>= fun t => (init T.members d).textToQname t) =
      if some x.ns = d then .error (.cannotMakeQName l (init T.members d).nsMap.keys none)
      else .ok (x.tag l) := by
  rw [docNameFromQname_tag T d hx]
  by_cases hd : some x.ns = d
  · simp [hd, textToQname, textToQname_bare hl, get?_nsMap_none]
  · simp [hd, textToQname, textToQname_prefixed (T.colonFree_pfx hx) hl, get?_nsMap T d hx,
      PrefixNamespace.tag]

theorem textToQname_docNameFromQname_nsMap_wsa :
    PrefixesEnum.WSA.value ∈ PrefixesEnum.prefixTable.values ∧ ColonFree "Action" ∧
    ((init PrefixesEnum.table (some PrefixesEnum.PM.value.ns)).docNameFromQname
        (PrefixesEnum.WSA.value.tag "Action") >>= fun t =>
      (init PrefixesEnum.table (some PrefixesEnum.PM.value.ns)).textToQname t) =
      if some PrefixesEnum.WSA.value.ns = some PrefixesEnum.PM.value.ns then
        .error (.cannotMakeQName "Action"
          (init PrefixesEnum.table (some PrefixesEnum.PM.value.ns)).nsMap.keys none)
      else .ok (PrefixesEnum.WSA.value.tag "Action") :=
  ⟨PrefixesEnum.value_mem_values _, by decide,
    textToQname_docNameFromQname_nsMap PrefixesEnum.prefixTable _ (PrefixesEnum.value_mem_values _)
      (by decide)⟩

/-- The helper reads back every member's `doc_name` with a non-empty prefix. -/
theorem textToQname_docName {x : PrefixNamespace} (hx : x ∈ T.values) (hne : x.pfx ≠ "") {l : String}
    (hl : ColonFree l) : (init T.members d).textToQname (x.docName l) = .ok (x.tag l) := by
  simp [PrefixNamespace.docName, hne, textToQname, textToQname_prefixed (T.colonFree_pfx hx) hl,
    get?_nsMap T d hx, PrefixNamespace.tag]

theorem textToQname_docName_msg :
    PrefixesEnum.MSG.value ∈ PrefixesEnum.prefixTable.values ∧ PrefixesEnum.MSG.value.pfx ≠ "" ∧
    ColonFree "GetMdib" ∧
    (init PrefixesEnum.table none).textToQname (PrefixesEnum.MSG.value.docName "GetMdib") =
      .ok (PrefixesEnum.MSG.value.tag "GetMdib") :=
  ⟨PrefixesEnum.value_mem_values _, by decide, by decide,
    textToQname_docName PrefixesEnum.prefixTable _ (PrefixesEnum.value_mem_values _) (by decide)
      (by decide)⟩

theorem get?_partialMap_values_some (p : String) :
    ((init T.members d).partialMap T.values).get? (some p) = (init T.members d).nsMap.get? (some p) := by
  cases hn : (init T.members d).nsMap.get? (some p) with
  | none =>
    refine Option.eq_none_iff_forall_not_mem.mpr fun w hw => ?_
    obtain ⟨y, hy, hk | hk, -⟩ := exists_of_get?_partialMap _ hw
    · cases hk.1
    · rw [hk, get?_nsMap T d hy] at hn
      cases hn
  | some ns =>
    obtain ⟨x, hx, hk, rfl⟩ := exists_of_get?_nsMap T d hn
    cases Option.some.inj hk
    exact get?_partialMap_some _ T (fun _ hy => hy) hx

/-- Reading against `partial_map` of all the members reads what the helper reads against its own
`ns_map`, and besides exactly the bare names, into the default namespace when it is a member's. -/
theorem textToQname_partialMap_values_eq_ok_iff {t : String} {q : QName} :
    (init T.members d).textToQname t (some ((init T.members d).partialMap T.values)) = .ok q ↔
      (init T.members d).textToQname t = .ok q ∨
        (ColonFree t ∧ (∃ x ∈ T.values, some x.ns = d) ∧ q = ⟨d, t⟩) := by
  by_cases hempty : ((init T.members d).partialMap T.values).items = []
  · have hT : T.values = [] := List.eq_nil_iff_forall_not_mem.mpr fun x hx => by
      have := get?_partialMap_some (init T.members d) T (fun _ hy => hy) hx
      simp [PyDict.get?, hempty] at this
    simp [textToQname, hT, partialMap, PyDict.empty]
  simp only [textToQname, if_neg hempty, textToQname_eq_ok_iff]
  by_cases hlen : (pySplit t ':').length = 1
  · have hfree : ColonFree t := List.count_eq_zero.mp (by have := length_pySplit t; omega)
    rw [pySplit_of_colonFree hfree]
    simp only [List.length_singleton, ite_true, get?_nsMap_none, List.getLast!_cons, List.getLastD_nil,
      reduceCtorEq, false_and, exists_false, false_or, hfree, true_and]
    constructor
    · rintro ⟨ns, hns, rfl⟩
      obtain ⟨y, hy, ⟨-, hyd⟩ | hk, rfl⟩ := exists_of_get?_partialMap _ hns
      · exact ⟨⟨y, hy, hyd⟩, by rw [hyd]; rfl⟩
      · cases hk
    · rintro ⟨⟨x, hx, hxd⟩, rfl⟩
      exact ⟨x.ns, get?_partialMap_none _ hx hxd, by rw [hxd]⟩
  · have hnfree : ¬ColonFree t := fun hf => hlen (by rw [pySplit_of_colonFree hf]; rfl)
    simp only [if_neg hlen, get?_partialMap_values_some, hnfree, false_and, or_false]

/-- The helper prints no two of the members' QNames, with `:`-free local names, as one text. -/
theorem docNameFromQname_inj {x y : PrefixNamespace} (hx : x ∈ T.values) (hy : y ∈ T.values) {l l' : String}
    (hl : ColonFree l) (hl' : ColonFree l')
    (h : (init T.members d).docNameFromQname (x.tag l) = (init T.members d).docNameFromQname (y.tag l')) :
    x.tag l = y.tag l' := by
  have hS : ∀ z ∈ [x, y], z ∈ T.values := by simp [hx, hy]
  have hxr := textToQname_docNameFromQname_partialMap_of_prefixTable T d hS (List.mem_cons_self x [y]) hl
  have hyr := textToQname_docNameFromQname_partialMap_of_prefixTable T d hS
    (List.mem_cons_of_mem x (List.mem_singleton_self y)) hl'
  rw [h, hyr] at hxr
  exact (Except.ok.inj hxr).symm

theorem docNameFromQname_inj_wsa :
    PrefixesEnum.WSA.value ∈ PrefixesEnum.prefixTable.values ∧ ColonFree "Action" ∧
    (init PrefixesEnum.table none).docNameFromQname (PrefixesEnum.WSA.value.tag "Action") =
      (init PrefixesEnum.table none).docNameFromQname (PrefixesEnum.WSA.value.tag "Action") ∧
    PrefixesEnum.WSA.value.tag "Action" = PrefixesEnum.WSA.value.tag "Action" :=
  ⟨PrefixesEnum.value_mem_values _, by decide, rfl,
    docNameFromQname_inj PrefixesEnum.prefixTable none (PrefixesEnum.value_mem_values _)
      (PrefixesEnum.value_mem_values _) (by decide) (by decide) rfl⟩

/-- Reading a text against the helper's own `ns_map` and printing the QName gives the text back
exactly when the text has at most one `:` and the QName is not in the default namespace, which the
helper prints bare. -/
theorem docNameFromQname_textToQname_iff {t : String} {q : QName}
    (h : (init T.members d).textToQname t = .ok q) :
    (init T.members d).docNameFromQname q = .ok t ↔ t.data.count ':' ≤ 1 ∧ q.ns ≠ d := by
  obtain ⟨ns, hns, rfl⟩ := Sdc11073.textToQname_eq_ok h
  obtain ⟨x, hx, hk, rfl⟩ := exists_of_get?_nsMap T d hns
  have hprint := elim_pySplit_eq_iff t
  by_cases hlen : (pySplit t ':').length = 1
  · rw [if_pos hlen] at hk
    cases hk
  rw [if_neg hlen] at hk hprint
  rw [← Option.some.inj hk] at hprint
  have hlast : (pySplit t ':').getLast! ≠ t := fun he =>
    hlen (by rw [pySplit_of_colonFree (he ▸ colonFree_getLast!_pySplit t)]; rfl)
  rw [show (⟨some x.ns, (pySplit t ':').getLast!⟩ : QName) = x.tag (pySplit t ':').getLast! from rfl,
    docNameFromQname_tag T d hx]
  by_cases hd : some x.ns = d
  · simp [hd, hlast, PrefixNamespace.tag]
  · simpa [hd, PrefixNamespace.tag] using hprint

end Table

/-- With `PM`'s namespace the default, `dom:MdDescription` reads as `PM.tag('MdDescription')` and
prints back bare. -/
theorem docNameFromQname_textToQname_iff_default :
    (init PrefixesEnum.table (some PrefixesEnum.PM.value.ns)).textToQname
        (PrefixesEnum.PM.value.pfx ++ ":" ++ "MdDescription") = .ok (PrefixesEnum.PM.value.tag "MdDescription") ∧
    ((init PrefixesEnum.table (some PrefixesEnum.PM.value.ns)).docNameFromQname
        (PrefixesEnum.PM.value.tag "MdDescription") = .ok (PrefixesEnum.PM.value.pfx ++ ":" ++ "MdDescription") ↔
      (PrefixesEnum.PM.value.pfx ++ ":" ++ "MdDescription").data.count ':' ≤ 1 ∧
        (PrefixesEnum.PM.value.tag "MdDescription").ns ≠ some PrefixesEnum.PM.value.ns) := by
  have hget := get?_nsMap PrefixesEnum.prefixTable (some PrefixesEnum.PM.value.ns)
    (PrefixesEnum.value_mem_values PrefixesEnum.PM)
  rw [PrefixesEnum.prefixTable_members] at hget
  have h : (init PrefixesEnum.table (some PrefixesEnum.PM.value.ns)).textToQname
      (PrefixesEnum.PM.value.pfx ++ ":" ++ "MdDescription") = .ok (PrefixesEnum.PM.value.tag "MdDescription") := by
    simp only [textToQname, textToQname_prefixed (by decide : ColonFree PrefixesEnum.PM.value.pfx)
      (by decide : ColonFree "MdDescription"), hget]
    rfl
  exact ⟨h, docNameFromQname_textToQname_iff PrefixesEnum.prefixTable _ h⟩

/-! ## The stack's helper -/

/-- For every default namespace, the stack's helper reads back each name it prints for a member
against the map `partial_map` declares for any members including it. -/
theorem textToQname_docNameFromQname_partialMap (d : Option String) (S : List PrefixesEnum)
    (p : PrefixesEnum) (hp : p ∈ S) (l : String) (hl : ColonFree l) :
    ((init PrefixesEnum.table d).docNameFromQname (p.value.tag l) >>= fun t =>
      (init PrefixesEnum.table d).textToQname t
        (some ((init PrefixesEnum.table d).partialMap (S.map PrefixesEnum.value)))) = .ok (p.value.tag l) :=
  textToQname_docNameFromQname_partialMap_of_prefixTable PrefixesEnum.prefixTable d
    (fun _ hy => by obtain ⟨q, -, rfl⟩ := List.mem_map.mp hy; exact PrefixesEnum.value_mem_values q)
    (List.mem_map_of_mem _ hp) hl

theorem textToQname_docNameFromQname_partialMap_default :
    PrefixesEnum.PM ∈ [PrefixesEnum.MSG, PrefixesEnum.PM] ∧ ColonFree "MdDescription" ∧
    ((init PrefixesEnum.table (some PrefixesEnum.PM.value.ns)).docNameFromQname
        (PrefixesEnum.PM.value.tag "MdDescription") >>= fun t =>
      (init PrefixesEnum.table (some PrefixesEnum.PM.value.ns)).textToQname t
        (some ((init PrefixesEnum.table (some PrefixesEnum.PM.value.ns)).partialMap
          ([PrefixesEnum.MSG, PrefixesEnum.PM].map PrefixesEnum.value)))) =
      .ok (PrefixesEnum.PM.value.tag "MdDescription") :=
  ⟨by decide, by decide, textToQname_docNameFromQname_partialMap _ _ _ (by decide) _ (by decide)⟩

/-- With `PM`'s namespace as the default, the helper prints `PM.tag('MdDescription')` bare and cannot
read it back against its own `ns_map`. -/
theorem textToQname_docNameFromQname_default_raises :
    ((init PrefixesEnum.table (some PrefixesEnum.PM.value.ns)).docNameFromQname
        (PrefixesEnum.PM.value.tag "MdDescription") >>= fun t =>
      (init PrefixesEnum.table (some PrefixesEnum.PM.value.ns)).textToQname t) =
      .error (.cannotMakeQName "MdDescription"
        (init PrefixesEnum.table (some PrefixesEnum.PM.value.ns)).nsMap.keys none) := by
  have h := docNameFromQname_tag PrefixesEnum.prefixTable (some PrefixesEnum.PM.value.ns)
    (PrefixesEnum.value_mem_values PrefixesEnum.PM) "MdDescription"
  rw [PrefixesEnum.prefixTable_members, if_pos rfl] at h
  simp [h, textToQname, textToQname_bare (by decide : ColonFree "MdDescription"), get?_nsMap_none]

end NamespaceHelper

/-- `default_ns_helper = NamespaceHelper(PrefixesEnum)`. -/
def defaultNsHelper : NamespaceHelper := NamespaceHelper.init PrefixesEnum.table

end Sdc11073
