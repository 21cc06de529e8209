import Sdc11073.PyDict
import Mathlib.Data.List.Basic
import Mathlib.Data.String.Basic

/-!
# `text_to_qname` and `docname_from_qname`

`docname_from_qname(qname, ns_map)` prints a QName for a document whose namespace map is `ns_map`
(prefix to namespace, `None` the default namespace). It inverts the map, the last prefix of a
namespace winning, and writes `prefix:localname`, or the bare local name for the `None` prefix and
for a namespace the map does not declare. `text_to_qname(text, doc_nsmap)` reads a name back: it
splits the text at every `:`, takes the first piece as the prefix when there is more than one and the
last piece as the local name, and looks the prefix up.

Printing then reading is the identity for every map whose prefixes are `:`-free, injective or not:
the prefix the inversion picks is a key of the map that maps back to the QName's namespace. Reading
then printing is the identity for an injective map only on texts with at most one `:`; a longer text
loses its middle pieces.

lxml's `QName` raises `ValueError` for a local name that is not an XML name. `textToQname` leaves
that check out; `textToQnameChecked` makes it, the check a parameter (`TagNameCheck`) that accepts no
name with a `:`. The two reads agree wherever lxml accepts the local name, and the statements about
`textToQname` ask only for a `:`-free local name, which every name lxml accepts is.

* `pySplit` : `str.split` at one character (`pySplit_eq_split`), its pieces `:`-free
  (`colonFree_of_mem_pySplit`), one more than the separators (`length_pySplit`), rejoined to the text
  (`data_eq_intercalate_pySplit`); `elim_pySplit_eq_iff` : the first and last piece give the text
  back exactly when it has at most one `:`;
* `textToQname_bare`, `textToQname_prefixed`, `textToQname_elim` : reading a printed name;
  `textToQname_eq_ok`, `textToQname_eq_error` : what a read returns, and what its `KeyError` names;
  `exists_textToQname_eq_ok_iff` : the QNames a read can return;
* `docnameFromQname_of_invert` : printing under the prefix the inversion finds;
* `textToQnameChecked_eq` : the read with lxml's check is the read followed by the check;
  `textToQnameChecked_eq_ok_iff`, `_eq_keyError_iff`, `_eq_valueError_iff` : what it returns and raises;
* `textToQname_docnameFromQname` : print, then read; `textToQnameChecked_docnameFromQname` : the same
  with lxml's check, for an XML name;
* `docnameFromQname_textToQname_iff` : read, then print.
-/

namespace Sdc11073

set_option autoImplicit false

/-- An lxml `QName`: its `namespace` (`None` when it has none) and its `localname`. -/
structure QName where
  ns : Option String
  localname : String
  deriving DecidableEq, Repr

/-- The `KeyError`s of the namespace code. -/
inductive KeyError
  /-- `d[key]` on a missing key. -/
  | missing (key : Option String)
  /-- `Cannot make QName for {text}, prefix is not in nsmap: {doc_nsmap.keys()}`, raised by
  `text_to_qname` from the failed lookup of `key`. -/
  | cannotMakeQName (text : String) (keys : List (Option String)) (key : Option String)
  deriving DecidableEq, Repr

@[simp] theorem ok_bind {α β : Type} (a : α) (f : α → Except KeyError β) : (Except.ok a >>= f) = f a := rfl

@[simp] theorem error_bind {α β : Type} (e : KeyError) (f : α → Except KeyError β) :
    (Except.error e >>= f) = .error e := rfl

/-- A text with no `:` in it. -/
def ColonFree (s : String) : Prop := ':' ∉ s.data

instance (s : String) : Decidable (ColonFree s) := inferInstanceAs (Decidable (_ ∉ _))

theorem ColonFree.not_beq {s : String} (h : ColonFree s) : ∀ x ∈ s.data, ¬(x == ':') = true :=
  fun _ hx hc => h (beq_iff_eq.mp hc ▸ hx)

/-- `text.split(sep)` for a one-character separator: the pieces between separators, empty ones
included. -/
def pySplit (text : String) (sep : Char) : List String := (text.data.splitOn sep).map String.mk

/-- `text_to_qname(text, doc_nsmap)`, with lxml's check of the local name left out:
`textToQnameChecked` adds it, and agrees with this read on XML names (`textToQnameChecked_eq_ok_iff`). -/
def textToQname (text : String) (doc_nsmap : PyDict (Option String) String) : Except KeyError QName :=
  let elements := pySplit text ':'
  let pfx := if elements.length = 1 then none else some elements.head!
  let name := elements.getLast!
  match doc_nsmap.get? pfx with
  | some ns => .ok ⟨some ns, name⟩
  | none => .error (.cannotMakeQName text doc_nsmap.keys pfx)

/-- `docname_from_qname(qname, ns_map)`. -/
def docnameFromQname (qname : QName) (ns_map : PyDict (Option String) String) : String :=
  let prefixmap := ns_map.invert
  match qname.ns.bind prefixmap.get? with
  | some (some pfx) => pfx ++ ":" ++ qname.localname
  | _ => qname.localname

/-! ## lxml's `QName` -/

/-- lxml's check of a tag name when it builds a `QName` (`_tagValidOrRaise`: libxml2's
`xmlValidateNameValue`, and no `:`), not under src/. The model takes it as a parameter and uses two
facts of it: a name it accepts has no `:`, and it rejects the empty name. -/
structure TagNameCheck where
  isValid : String → Bool
  colonFree_of_isValid : ∀ s, isValid s → ColonFree s
  isValid_empty : isValid "" = false

/-- lxml's check on ASCII names, as libxml2 makes it: a letter or `_`, then letters, digits, `.`, `-`
and `_`, `:` refused by lxml. It rejects every name with another character, some of which lxml
accepts. -/
def asciiTagNameCheck : TagNameCheck where
  isValid s := match s.data with
    | [] => false
    | c :: cs => (c.isAlpha || c == '_') && cs.all fun c => c.isAlphanum || c == '.' || c == '-' || c == '_'
  colonFree_of_isValid := by
    rintro ⟨_ | ⟨c, cs⟩⟩ h hc
    · cases hc
    · simp only [Bool.and_eq_true, Bool.or_eq_true, beq_iff_eq, List.all_eq_true] at h
      rcases List.mem_cons.mp hc with rfl | hc
      · exact absurd h.1 (by decide)
      · exact absurd (h.2 _ hc) (by decide)
  isValid_empty := rfl

/-- `ValueError: Invalid tag name {name!r}`, raised by lxml's `QName`. -/
inductive ValueError
  | invalidTagName (name : String)
  deriving DecidableEq, Repr

/-- What `text_to_qname` raises: the `KeyError` of its lookup, or the `ValueError` of lxml's `QName`. -/
inductive ReadError
  | keyError (e : KeyError)
  | valueError (e : ValueError)
  deriving DecidableEq, Repr

section Lxml

variable (lxml : TagNameCheck)

/-- `xml_utils.QName(namespace, localname)`, lxml's `etree.QName`: `ValueError` for a local name that
is not an XML name. -/
def mkQName (ns : Option String) (localname : String) : Except ValueError QName :=
  if lxml.isValid localname then .ok ⟨ns, localname⟩ else .error (.invalidTagName localname)

/-- `text_to_qname(text, doc_nsmap)` with lxml's check: the lookup's `KeyError`, caught and raised
again with the message, then `QName`'s `ValueError`, which the `except KeyError` lets through. -/
def textToQnameChecked (text : String) (doc_nsmap : PyDict (Option String) String) : Except ReadError QName :=
  let elements := pySplit text ':'
  let pfx := if elements.length = 1 then none else some elements.head!
  let name := elements.getLast!
  match doc_nsmap.get? pfx with
  | some ns => (mkQName lxml (some ns) name).mapError .valueError
  | none => .error (.keyError (.cannotMakeQName text doc_nsmap.keys pfx))

end Lxml

/-! ## Splitting at `:` -/

theorem pySplit_eq_split (text : String) (sep : Char) : pySplit text sep = text.split (· == sep) :=
  (String.split_of_valid text _).symm

theorem length_splitOn (l : List Char) (c : Char) : (l.splitOn c).length = l.count c + 1 := by
  induction l with
  | nil => rfl
  | cons x l ih => by_cases h : x = c <;> simp_all [List.splitOn, List.count_cons]

theorem not_mem_of_mem_splitOn (l : List Char) (c : Char) : ∀ w ∈ l.splitOn c, c ∉ w := by
  induction l with
  | nil => simp [List.splitOn]
  | cons x l ih =>
    obtain ⟨w₀, ws, hws⟩ := List.exists_cons_of_ne_nil (List.splitOnP_ne_nil (· == c) l)
    simp only [List.splitOn] at ih hws ⊢
    by_cases h : x = c
    · simpa [h] using ih
    · rw [hws] at ih
      simp only [List.splitOnP_cons, beq_iff_eq, h, if_false, hws, List.modifyHead_cons]
      intro w hw
      rcases List.mem_cons.mp hw with rfl | hw
      · exact List.not_mem_cons_of_ne_of_not_mem (Ne.symm h) (ih w₀ (List.mem_cons_self _ _))
      · exact ih w (List.mem_cons_of_mem _ hw)

theorem colonFree_of_mem_pySplit {text w : String} (h : w ∈ pySplit text ':') : ColonFree w := by
  obtain ⟨l, hl, rfl⟩ := List.mem_map.mp h
  exact not_mem_of_mem_splitOn _ _ l hl

theorem length_pySplit (text : String) : (pySplit text ':').length = text.data.count ':' + 1 := by
  simp [pySplit, length_splitOn]

theorem data_eq_intercalate_pySplit (text : String) :
    text.data = [':'].intercalate ((pySplit text ':').map String.data) := by
  simpa [pySplit, Function.comp_def] using (List.intercalate_splitOn text.data ':').symm

theorem colonFree_getLast!_pySplit (text : String) : ColonFree (pySplit text ':').getLast! := by
  obtain ⟨a, rest, hs⟩ := List.exists_cons_of_length_pos
    (by rw [length_pySplit]; omega : 0 < (pySplit text ':').length)
  exact colonFree_of_mem_pySplit (by rw [hs, List.getLast!_cons]; exact List.getLastD_mem_cons _ _)

theorem pySplit_of_colonFree {s : String} (h : ColonFree s) : pySplit s ':' = [s] := by
  rw [pySplit, List.splitOn, List.splitOnP_eq_single _ _ h.not_beq]
  rfl

theorem pySplit_append {a b : String} (ha : ColonFree a) (hb : ColonFree b) :
    pySplit (a ++ ":" ++ b) ':' = [a, b] := by
  have hsplit : (a.data ++ ':' :: b.data).splitOnP (· == ':') = [a.data, b.data] := by
    rw [List.splitOnP_first _ _ ha.not_beq _ (by simp), List.splitOnP_eq_single _ _ hb.not_beq]
  simp only [pySplit, List.splitOn, String.data_append, List.append_assoc]
  rw [List.singleton_append, hsplit]
  rfl

theorem count_colon_append {a b : String} (ha : ColonFree a) (hb : ColonFree b) :
    (a ++ ":" ++ b).data.count ':' = 1 := by
  simp [String.data_append, List.count_eq_zero_of_not_mem ha, List.count_eq_zero_of_not_mem hb,
    show ":".data = [':'] from rfl]

/-- Printing again the prefix and the local name a read takes from a text gives the text back
exactly when it has at most one `:`. -/
theorem elim_pySplit_eq_iff (t : String) :
    (if (pySplit t ':').length = 1 then none else some (pySplit t ':').head!).elim
      (pySplit t ':').getLast! (· ++ ":" ++ (pySplit t ':').getLast!) = t ↔ t.data.count ':' ≤ 1 := by
  have hlen := length_pySplit t
  have hjoin := data_eq_intercalate_pySplit t
  have hfree : ∀ w ∈ pySplit t ':', ColonFree w := fun _ => colonFree_of_mem_pySplit
  generalize pySplit t ':' = es at hlen hjoin hfree ⊢
  rcases es with _ | ⟨a, _ | ⟨b, _ | ⟨c, rest⟩⟩⟩
  · simp at hlen
  · have ht : a = t := String.ext (by simpa [List.intercalate] using hjoin.symm)
    simp only [List.length_singleton] at hlen
    simp only [List.length_singleton, if_pos, Option.elim, List.getLast!_cons, List.getLastD_nil, ht, true_iff]
    omega
  · have ht : a ++ ":" ++ b = t :=
      String.ext (by simpa [String.data_append, List.intercalate] using hjoin.symm)
    simp only [List.length_cons, List.length_nil] at hlen
    simp only [List.length_cons, List.length_nil, List.head!_cons, Option.elim, List.getLast!_cons,
      List.getLastD_cons, List.getLastD_nil, if_neg (by omega : ¬0 + 1 + 1 = 1), ht, true_iff]
    omega
  · simp only [List.length_cons] at hlen
    have hlast : ColonFree (a :: b :: c :: rest).getLast! :=
      hfree _ (by rw [List.getLast!_cons]; exact List.getLastD_mem_cons _ _)
    have hprint := count_colon_append (hfree a (List.mem_cons_self _ _)) hlast
    simp only [List.length_cons, List.head!_cons, if_neg (by omega : ¬rest.length + 1 + 1 + 1 = 1), Option.elim]
    refine iff_of_false (fun he => ?_) (by omega)
    rw [he] at hprint
    omega

/-! ## Reading a name -/

theorem textToQname_bare {text : String} (h : ColonFree text) (m : PyDict (Option String) String) :
    textToQname text m = match m.get? none with
      | some ns => .ok ⟨some ns, text⟩
      | none => .error (.cannotMakeQName text m.keys none) := by
  simp [textToQname, pySplit_of_colonFree h, List.getLast!_cons]

theorem textToQname_prefixed {p l : String} (hp : ColonFree p) (hl : ColonFree l)
    (m : PyDict (Option String) String) :
    textToQname (p ++ ":" ++ l) m = match m.get? (some p) with
      | some ns => .ok ⟨some ns, l⟩
      | none => .error (.cannotMakeQName (p ++ ":" ++ l) m.keys (some p)) := by
  simp [textToQname, pySplit_append hp hl, List.getLast!_cons]

/-- Reading `localname` under the `None` prefix, or `prefix:localname`. -/
theorem textToQname_elim {m : PyDict (Option String) String} {k : Option String} {ns l : String}
    (hk : ∀ p, k = some p → ColonFree p) (hl : ColonFree l) (h : m.get? k = some ns) :
    textToQname (k.elim l (· ++ ":" ++ l)) m = .ok ⟨some ns, l⟩ := by
  cases k with
  | none => simp [textToQname_bare hl, h]
  | some p => simp [textToQname_prefixed (hk p rfl) hl, h]

/-- A read succeeds on a text whose pieces are `first, ..., last` with the namespace of the prefix
(`None` for one piece, `first` otherwise) and the local name `last`. -/
theorem textToQname_eq_ok {text : String} {m : PyDict (Option String) String} {q : QName}
    (h : textToQname text m = .ok q) :
    ∃ ns, m.get? (if (pySplit text ':').length = 1 then none else some (pySplit text ':').head!) = some ns ∧
      q = ⟨some ns, (pySplit text ':').getLast!⟩ := by
  simp only [textToQname] at h
  split at h
  · exact ⟨_, ‹_›, (Except.ok.inj h).symm⟩
  · cases h

theorem textToQname_eq_ok_iff {text : String} {m : PyDict (Option String) String} {q : QName} :
    textToQname text m = .ok q ↔
      ∃ ns, m.get? (if (pySplit text ':').length = 1 then none else some (pySplit text ':').head!) = some ns ∧
        q = ⟨some ns, (pySplit text ':').getLast!⟩ :=
  ⟨textToQname_eq_ok, fun ⟨ns, h, hq⟩ => by simp only [textToQname, h, hq]⟩

/-- A failed read names the text, lists the map's keys, and looks up a prefix that is not one of
them. -/
theorem textToQname_eq_error {text : String} {m : PyDict (Option String) String} {e : KeyError}
    (h : textToQname text m = .error e) :
    ∃ pfx, pfx ∉ m.keys ∧ e = .cannotMakeQName text m.keys pfx := by
  simp only [textToQname] at h
  split at h
  · cases h
  · exact ⟨_, PyDict.get?_eq_none_iff.mp ‹_›, (Except.error.inj h).symm⟩

/-! ## Reading a name with lxml's check -/

section Lxml

variable (lxml : TagNameCheck)

theorem mapError_eq_ok_iff {α : Type} {f : ValueError → ReadError} {x : Except ValueError α} {a : α} :
    x.mapError f = .ok a ↔ x = .ok a := by
  cases x <;> simp [Except.mapError]

theorem mkQName_eq_ok_iff {ns : Option String} {l : String} {q : QName} :
    mkQName lxml ns l = .ok q ↔ ⟨ns, l⟩ = q ∧ lxml.isValid l := by
  unfold mkQName
  split <;> simp_all

/-- The read with lxml's check is the read of the model followed by lxml's check of the local name. -/
theorem textToQnameChecked_eq (text : String) (m : PyDict (Option String) String) :
    textToQnameChecked lxml text m = match textToQname text m with
      | .ok q => (mkQName lxml q.ns q.localname).mapError .valueError
      | .error e => .error (.keyError e) := by
  simp only [textToQnameChecked, textToQname]
  split <;> rfl

theorem textToQnameChecked_eq_ok_iff {text : String} {m : PyDict (Option String) String} {q : QName} :
    textToQnameChecked lxml text m = .ok q ↔ textToQname text m = .ok q ∧ lxml.isValid q.localname := by
  rw [textToQnameChecked_eq]
  rcases textToQname text m with e | ⟨ns, l⟩
  · simp
  · rw [mapError_eq_ok_iff, mkQName_eq_ok_iff, Except.ok.injEq]
    exact and_congr_right fun h => by subst h; rfl

theorem textToQnameChecked_eq_keyError_iff {text : String} {m : PyDict (Option String) String} {e : KeyError} :
    textToQnameChecked lxml text m = .error (.keyError e) ↔ textToQname text m = .error e := by
  rw [textToQnameChecked_eq]
  rcases textToQname text m with e' | ⟨ns, l⟩
  · simp
  · cases hv : lxml.isValid l <;> simp [mkQName, hv, Except.mapError]

/-- A read with lxml's check raises `ValueError` exactly when the model reads a QName whose local name
lxml rejects, the empty last piece of `a:b:` among them. -/
theorem textToQnameChecked_eq_valueError_iff {text : String} {m : PyDict (Option String) String}
    {e : ValueError} :
    textToQnameChecked lxml text m = .error (.valueError e) ↔
      ∃ q, textToQname text m = .ok q ∧ lxml.isValid q.localname = false ∧ .invalidTagName q.localname = e := by
  rw [textToQnameChecked_eq]
  rcases textToQname text m with e' | ⟨ns, l⟩
  · simp
  · cases hv : lxml.isValid l <;> simp [mkQName, hv, Except.mapError]

end Lxml

/-- `a:b:` against a map that declares `a`: the local name is empty. -/
example : textToQnameChecked asciiTagNameCheck "a:b:" (PyDict.ofList [(some "a", "urn:a")]) =
    .error (.valueError (.invalidTagName "")) := rfl

/-- The QNames a read returns against a map with `:`-free prefixes are exactly those with one of the
map's namespaces and a `:`-free local name. -/
theorem exists_textToQname_eq_ok_iff (m : PyDict (Option String) String)
    (hm : ∀ p : String, some p ∈ m.keys → ColonFree p) (q : QName) :
    (∃ text, textToQname text m = .ok q) ↔ (∃ ns ∈ m.values, q.ns = some ns) ∧ ColonFree q.localname := by
  constructor
  · rintro ⟨text, h⟩
    obtain ⟨ns, hns, rfl⟩ := textToQname_eq_ok h
    exact ⟨⟨ns, List.mem_map.mpr ⟨_, PyDict.get?_eq_some_iff.mp hns, rfl⟩, rfl⟩, colonFree_getLast!_pySplit text⟩
  · rintro ⟨⟨ns, hns, hq⟩, hl⟩
    obtain ⟨e, he, rfl⟩ := List.mem_map.mp hns
    have hk : ∀ p, e.1 = some p → ColonFree p := fun p hp => hm p (PyDict.mem_keys.mpr ⟨e.2, hp ▸ he⟩)
    refine ⟨e.1.elim q.localname (· ++ ":" ++ q.localname), ?_⟩
    rw [textToQname_elim hk hl (PyDict.get?_eq_some_iff.mpr he), ← hq]

theorem exists_textToQname_eq_ok_iff_shared :
    (∀ p : String, some p ∈ (PyDict.ofList [(none, "urn:x"), (some "x", "urn:x")]).keys → ColonFree p) ∧
    ((∃ text, textToQname text (PyDict.ofList [(none, "urn:x"), (some "x", "urn:x")]) = .ok ⟨some "urn:x", "v"⟩) ↔
      (∃ ns ∈ (PyDict.ofList [(none, "urn:x"), (some "x", "urn:x")]).values, (some "urn:x" : Option String) = some ns) ∧
        ColonFree "v") := by
  have hkeys : ∀ p : String, some p ∈ (PyDict.ofList [(none, "urn:x"), (some "x", "urn:x")]).keys → ColonFree p := by
    intro p hp
    rw [show (PyDict.ofList [(none, "urn:x"), (some "x", "urn:x")]).keys = [none, some "x"] from rfl] at hp
    obtain rfl : p = "x" := by simpa using hp
    decide
  exact ⟨hkeys, exists_textToQname_eq_ok_iff _ hkeys ⟨some "urn:x", "v"⟩⟩

/-! ## Printing a name -/

/-- `docname_from_qname` prints the prefix its inversion of the map finds for the namespace. -/
theorem docnameFromQname_of_invert {m : PyDict (Option String) String} {ns : String} {k : Option String}
    (h : m.invert.get? ns = some k) (l : String) :
    docnameFromQname ⟨some ns, l⟩ m = k.elim l (· ++ ":" ++ l) := by
  cases k <;> simp [docnameFromQname, h]

/-- The prefix the inversion finds for one of the map's namespaces is a key of that namespace, and
`:`-free when the map's prefixes are. -/
theorem exists_get?_invert {m : PyDict (Option String) String} (hm : ∀ p : String, some p ∈ m.keys → ColonFree p)
    {ns : String} (hns : ns ∈ m.values) :
    ∃ k, m.invert.get? ns = some k ∧ m.get? k = some ns ∧ ∀ p, k = some p → ColonFree p := by
  obtain ⟨k, hk⟩ := PyDict.get?_invert_isSome hns
  have hmk := PyDict.get?_invert hk
  exact ⟨k, hk, hmk, fun p hp => hm p (PyDict.mem_keys.mpr ⟨ns, PyDict.get?_eq_some_iff.mp (hp ▸ hmk)⟩)⟩

/-! ## Round trips -/

/-- Printing a QName of one of the map's namespaces and reading it back gives the QName, for every
map with `:`-free prefixes. -/
theorem textToQname_docnameFromQname (m : PyDict (Option String) String)
    (hm : ∀ p : String, some p ∈ m.keys → ColonFree p) (ns : String) (hns : ns ∈ m.values)
    (localname : String) (hl : ColonFree localname) :
    textToQname (docnameFromQname ⟨some ns, localname⟩ m) m = .ok ⟨some ns, localname⟩ := by
  obtain ⟨k, hk, hmk, hfree⟩ := exists_get?_invert hm hns
  rw [docnameFromQname_of_invert hk]
  exact textToQname_elim hfree hl hmk

/-- A map with the default namespace under two prefixes, `None` among them, and an empty prefix. -/
theorem textToQname_docnameFromQname_shared :
    (∀ p : String, some p ∈ (PyDict.ofList [(none, "urn:x"), (some "x", "urn:x"), (some "", "urn:y")]).keys →
      ColonFree p) ∧
    "urn:x" ∈ (PyDict.ofList [(none, "urn:x"), (some "x", "urn:x"), (some "", "urn:y")]).values ∧
    ColonFree "v" ∧
    textToQname (docnameFromQname ⟨some "urn:x", "v"⟩
        (PyDict.ofList [(none, "urn:x"), (some "x", "urn:x"), (some "", "urn:y")]))
      (PyDict.ofList [(none, "urn:x"), (some "x", "urn:x"), (some "", "urn:y")]) = .ok ⟨some "urn:x", "v"⟩ := by
  have hkeys : ∀ p : String,
      some p ∈ (PyDict.ofList [(none, "urn:x"), (some "x", "urn:x"), (some "", "urn:y")]).keys → ColonFree p := by
    intro p hp
    rw [show (PyDict.ofList [(none, "urn:x"), (some "x", "urn:x"), (some "", "urn:y")]).keys =
      [none, some "x", some ""] from rfl] at hp
    simp only [List.mem_cons, Option.some.injEq, List.mem_singleton, reduceCtorEq, false_or] at hp
    rcases hp with rfl | rfl | h <;> first | decide | simp at h
  exact ⟨hkeys, by decide, by decide, textToQname_docnameFromQname _ hkeys "urn:x" (by decide) "v" (by decide)⟩

/-- With lxml's check, printing a QName of one of the map's namespaces whose local name is an XML name
and reading it back gives the QName. -/
theorem textToQnameChecked_docnameFromQname (lxml : TagNameCheck) (m : PyDict (Option String) String)
    (hm : ∀ p : String, some p ∈ m.keys → ColonFree p) (ns : String) (hns : ns ∈ m.values)
    (localname : String) (hl : lxml.isValid localname) :
    textToQnameChecked lxml (docnameFromQname ⟨some ns, localname⟩ m) m = .ok ⟨some ns, localname⟩ := by
  obtain ⟨k, hk, hmk, hfree⟩ := exists_get?_invert hm hns
  rw [textToQnameChecked_eq_ok_iff, docnameFromQname_of_invert hk]
  exact ⟨textToQname_elim hfree (lxml.colonFree_of_isValid _ hl) hmk, hl⟩

/-- A map with the default namespace under two prefixes, `None` among them, and lxml's check on ASCII
names. -/
theorem textToQnameChecked_docnameFromQname_ascii :
    (∀ p : String, some p ∈ (PyDict.ofList [(none, "urn:x"), (some "x", "urn:x")]).keys → ColonFree p) ∧
    "urn:x" ∈ (PyDict.ofList [(none, "urn:x"), (some "x", "urn:x")]).values ∧
    asciiTagNameCheck.isValid "MdDescription" ∧
    textToQnameChecked asciiTagNameCheck (docnameFromQname ⟨some "urn:x", "MdDescription"⟩
        (PyDict.ofList [(none, "urn:x"), (some "x", "urn:x")]))
      (PyDict.ofList [(none, "urn:x"), (some "x", "urn:x")]) = .ok ⟨some "urn:x", "MdDescription"⟩ := by
  have hkeys : ∀ p : String, some p ∈ (PyDict.ofList [(none, "urn:x"), (some "x", "urn:x")]).keys → ColonFree p := by
    intro p hp
    rw [show (PyDict.ofList [(none, "urn:x"), (some "x", "urn:x")]).keys = [none, some "x"] from rfl] at hp
    obtain rfl : p = "x" := by simpa using hp
    decide
  exact ⟨hkeys, by decide, rfl, textToQnameChecked_docnameFromQname asciiTagNameCheck _ hkeys "urn:x" (by decide)
    "MdDescription" rfl⟩

/-- For an injective map, reading a text and printing the QName gives the text back exactly when
the text has at most one `:`. -/
theorem docnameFromQname_textToQname_iff (m : PyDict (Option String) String) (hm : m.values.Nodup)
    (t : String) (q : QName) (h : textToQname t m = .ok q) :
    docnameFromQname q m = t ↔ t.data.count ':' ≤ 1 := by
  obtain ⟨ns, hns, rfl⟩ := textToQname_eq_ok h
  rw [docnameFromQname_of_invert (PyDict.get?_invert_of_nodup hm hns)]
  exact elim_pySplit_eq_iff t

theorem docnameFromQname_textToQname_prefixed :
    (PyDict.ofList [(some "a", "urn:a")]).values.Nodup ∧
    textToQname "a:b" (PyDict.ofList [(some "a", "urn:a")]) = .ok ⟨some "urn:a", "b"⟩ ∧
    (docnameFromQname ⟨some "urn:a", "b"⟩ (PyDict.ofList [(some "a", "urn:a")]) = "a:b" ↔
      "a:b".data.count ':' ≤ 1) :=
  ⟨by decide, rfl, docnameFromQname_textToQname_iff _ (by decide) "a:b" _ rfl⟩

theorem textToQname_drops_middle_segment :
    ¬ ∀ (m : PyDict (Option String) String) (t : String) (q : QName), m.values.Nodup →
      textToQname t m = .ok q → docnameFromQname q m = t := by
  intro h
  have := h (PyDict.ofList [(some "a", "urn:a")]) "a:b:c" ⟨some "urn:a", "c"⟩ (by decide) rfl
  exact absurd this (by decide)

end Sdc11073
