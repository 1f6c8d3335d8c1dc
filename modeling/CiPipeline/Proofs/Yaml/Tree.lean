import CiPipeline.Definition.Basic
import CiPipeline.Proofs.Yaml.Written

/-!
# Tree — a written form as a document and as data

The tokens of a form are grouped into the nodes that it was written for, without tags, anchors or
aliases.  Its texts denote themselves and its names differ, so that the data of the document are
those of the form.

* `Form.node`, `Form.datum`: the nodes and the data of a form;
* `Reads`: tokens that are read as a result in front of others;
* `Form.readsBack`, `Form.ofTokens_write`: the nodes of a form among others, and of a whole text;
* `Form.means`: what the nodes of a form say;
* `Form.decode_write`: a whole text.
-/

namespace CiPipeline
namespace Yaml

/-! ## Nodes -/

namespace Form

def textNode (s : String) : Node := .scalar none s (Style.ofText s == .plain)

mutual

/-- The node that a value is written for. -/
def node : Form → Node
  | text s => textNode s
  | list items => .sequence none (items.map textNode)
  | record fields => .mapping none (fieldNodes fields)

def fieldNodes : List (String × Form) → List (Node × Node)
  | [] => []
  | f :: rest => fieldNode f :: fieldNodes rest

def fieldNode : String × Form → Node × Node
  | (name, value) => (.scalar none name true, value.node)

end

end Form

/-! ## Grouping tokens -/

/-- Tokens are read as a result in front of others; besides the tokens only the count changes. -/
def Reads {α : Type} (read : Reading → α × Reading) (tokens : List Token) (a : α)
    (rest : List Token) : Prop :=
  ∀ s : Reading, s.tokens = tokens ++ rest →
    ∃ size, read s = (a, { s with tokens := rest, size := size })

namespace Reading

theorem node_scalar (fuel : Nat) (block indentless : Bool) (text : String) (plain : Bool)
    (rest : List Token) :
    Reads (node (fuel + 1) block indentless) [.scalar text plain] (.scalar none text plain) rest := by
  intro s tokens
  rcases s with ⟨_, handles, names, owners, nodes, size⟩
  subst tokens
  exact ⟨size + 1, rfl⟩

/-- A node in front of which no gap stands. -/
theorem nodeUnless_of_node {fuel : Nat} {block indentless : Bool} {gaps : List Token} {t : Token}
    {tokens rest : List Token} {n : Node} (present : t ∉ gaps)
    (reads : Reads (node fuel block indentless) (t :: tokens) n rest) :
    Reads (nodeUnless (fuel + 1) block indentless gaps) (t :: tokens) n rest := by
  intro s ahead
  have absent : s.atGap gaps = false := by
    rw [atGap, ahead]
    simpa using present
  rw [nodeUnless, absent]
  exact reads s ahead

theorem valueUnless_of_nodeUnless {fuel : Nat} {block : Bool} {gaps : List Token}
    {tokens rest : List Token} {n : Node}
    (reads : Reads (nodeUnless fuel block block gaps) tokens n rest) :
    Reads (valueUnless (fuel + 1) block gaps) (.value :: tokens) n rest := by
  intro s ahead
  rcases reads (s.goTo (tokens ++ rest)) rfl with ⟨size, read⟩
  refine ⟨size, ?_⟩
  rw [valueUnless, ahead]
  exact read

/-- The items of a list up to a token that is no sign of an item. -/
theorem indentlessItems_reads (items : List String) {fuel : Nat} (enough : items.length + 2 ≤ fuel)
    {t : Token} (other : t ≠ .blockEntry) (rest : List Token) :
    Reads (indentlessItems fuel) (Form.itemTokens items) (items.map Form.textNode) (t :: rest) := by
  induction items generalizing fuel with
  | nil =>
      obtain ⟨fuel, rfl⟩ : ∃ f, fuel = f + 1 := ⟨fuel - 1, by omega⟩
      intro s ahead
      rcases s with ⟨_, handles, names, owners, nodes, size⟩
      subst ahead
      refine ⟨size + 1, ?_⟩
      cases t <;> first | rfl | exact absurd rfl other
  | cons text items ih =>
      rw [List.length_cons] at enough
      obtain ⟨fuel, rfl⟩ : ∃ f, fuel = f + 3 := ⟨fuel - 3, by omega⟩
      intro s ahead
      have item : Reads (nodeUnless (fuel + 2) true false [.blockEntry, .key, .value, .blockEnd])
          [Form.textToken text] (Form.textNode text) (Form.itemTokens items ++ t :: rest) :=
        nodeUnless_of_node (by simp [Form.textToken]) (node_scalar fuel true false text _ _)
      have tokens : s.tokens =
          .blockEntry :: ([Form.textToken text] ++ (Form.itemTokens items ++ t :: rest)) := ahead
      rcases item (s.goTo ([Form.textToken text] ++ (Form.itemTokens items ++ t :: rest))) rfl with
        ⟨size, read⟩
      have enoughOthers : items.length + 2 ≤ fuel + 2 := by omega
      rcases ih enoughOthers { s with
        tokens := Form.itemTokens items ++ t :: rest, size := size } rfl with ⟨size', others⟩
      refine ⟨size', ?_⟩
      rw [indentlessItems, tokens]
      simp only [read]
      exact congrArg (fun read : List Node × Reading => (Form.textNode text :: read.1, read.2)) others

/-- A list that needs no indentation of its own. -/
theorem node_list {items : List String} (written : items ≠ []) {fuel : Nat}
    (enough : items.length + 3 ≤ fuel) {t : Token} (other : t ≠ .blockEntry) (rest : List Token) :
    Reads (node fuel true true) (Form.itemTokens items) (.sequence none (items.map Form.textNode))
      (t :: rest) := by
  obtain ⟨fuel, rfl⟩ : ∃ f, fuel = f + 1 := ⟨fuel - 1, by omega⟩
  intro s ahead
  rcases s with ⟨_, handles, names, owners, nodes, size⟩
  subst ahead
  rcases indentlessItems_reads items (Nat.le_of_succ_le_succ enough) other rest
    ⟨Form.itemTokens items ++ t :: rest, handles, names, owners, nodes, size + 1⟩ rfl with
    ⟨size', read⟩
  refine ⟨size', ?_⟩
  cases items with
  | nil => exact absurd rfl written
  | cons text items =>
      have opened : node (fuel + 1) true true
            ⟨Form.itemTokens (text :: items) ++ t :: rest, handles, names, owners, nodes, size⟩ =
          ((.sequence none (indentlessItems fuel ⟨Form.itemTokens (text :: items) ++ t :: rest,
              handles, names, owners, nodes, size + 1⟩).1),
            (indentlessItems fuel ⟨Form.itemTokens (text :: items) ++ t :: rest,
              handles, names, owners, nodes, size + 1⟩).2) := rfl
      rw [opened, read]

/-- A mapping with its fields, wherever it stands. -/
theorem node_mapping {fuel : Nat} (indentless : Bool) {tokens rest : List Token}
    {entries : List (Node × Node)} (reads : Reads (blockEntries fuel) tokens entries rest) :
    Reads (node (fuel + 1) true indentless) (.blockMappingStart :: tokens) (.mapping none entries)
      rest := by
  intro s ahead
  rcases s with ⟨_, handles, names, owners, nodes, size⟩
  subst ahead
  rcases reads ⟨tokens ++ rest, handles, names, owners, nodes, size + 1⟩ rfl with ⟨size', read⟩
  refine ⟨size', ?_⟩
  have opened : node (fuel + 1) true indentless
        ⟨.blockMappingStart :: (tokens ++ rest), handles, names, owners, nodes, size⟩ =
      ((.mapping none (blockEntries fuel
          ⟨tokens ++ rest, handles, names, owners, nodes, size + 1⟩).1),
        (blockEntries fuel ⟨tokens ++ rest, handles, names, owners, nodes, size + 1⟩).2) := by
    cases indentless <;> rfl
  rw [List.cons_append, opened, read]

/-- Brackets with nothing between them. -/
theorem node_empty (isList : Bool) (fuel : Nat) (block indentless : Bool) (rest : List Token) :
    Reads (node (fuel + 2) block indentless) (Scanner.emptyTokens isList)
      (if isList then .sequence none [] else .mapping none []) rest := by
  intro s ahead
  rcases s with ⟨_, handles, names, owners, nodes, size⟩
  subst ahead
  refine ⟨size + 2, ?_⟩
  cases isList <;> rfl

end Reading

namespace Form

/-- A value as a node, in front of a token that is no sign of an item. -/
def ReadsBack (value : Form) : Prop :=
  ∀ (fuel : Nat) (_ : 2 * value.tokens.length + 2 ≤ fuel) (t : Token) (_ : t ≠ .blockEntry)
    (rest : List Token), Reads (Reading.node fuel true true) value.tokens value.node (t :: rest)

/-- The fields of a mapping up to its end. -/
def FieldsReadBack (fields : List (String × Form)) : Prop :=
  ∀ (fuel : Nat) (_ : 2 * (fieldsTokens fields).length + 2 ≤ fuel) (rest : List Token),
    Reads (Reading.blockEntries fuel) (fieldsTokens fields ++ [.blockEnd]) (fieldNodes fields) rest

/-- No value begins like a key, nor like the end of a mapping. -/
theorem tokens_head (value : Form) :
    ∃ t rest, value.tokens = t :: rest ∧ t ∉ [Token.key, .value, .blockEnd] := by
  match value with
  | text s => exact ⟨textToken s, [], rfl, by simp [textToken]⟩
  | list [] => exact ⟨_, _, rfl, by decide⟩
  | list (s :: rest) => exact ⟨.blockEntry, _, rfl, by decide⟩
  | record [] => exact ⟨_, _, rfl, by decide⟩
  | record (f :: rest) => exact ⟨.blockMappingStart, _, rfl, by decide⟩

/-- Behind a field stands another one or the end of the mapping. -/
theorem fieldsTokens_head (fields : List (String × Form)) (behind : List Token) :
    ∃ t rest, fieldsTokens fields ++ .blockEnd :: behind = t :: rest ∧ t ≠ .blockEntry := by
  match fields with
  | [] => exact ⟨.blockEnd, behind, rfl, by decide⟩
  | (name, value) :: rest => exact ⟨.key, _, rfl, by decide⟩

theorem fieldsReadBack_nil : FieldsReadBack [] := by
  intro fuel enough rest s ahead
  obtain ⟨fuel, rfl⟩ : ∃ f, fuel = f + 1 := ⟨fuel - 1, by omega⟩
  rcases s with ⟨_, handles, names, owners, nodes, size⟩
  subst ahead
  exact ⟨size + 1, rfl⟩

theorem fieldsReadBack_cons (name : String) {value : Form} {rest : List (String × Form)}
    (first : value.ReadsBack) (others : FieldsReadBack rest) :
    FieldsReadBack ((name, value) :: rest) := by
  intro fuel enough behind s ahead
  have count : (fieldsTokens ((name, value) :: rest)).length =
      value.tokens.length + (fieldsTokens rest).length + 3 := by
    simp only [fieldsTokens, fieldTokens, List.length_append, List.length_cons]
    omega
  rw [count] at enough
  obtain ⟨fuel, rfl⟩ : ∃ f, fuel = f + 3 := ⟨fuel - 3, by omega⟩
  rcases fieldsTokens_head rest behind with ⟨t, more, next, other⟩
  rcases tokens_head value with ⟨v, tail, begins, present⟩
  -- The key, then the value behind its sign, then the other fields.
  have key : Reads (Reading.nodeUnless (fuel + 2) true true [.key, .value, .blockEnd])
      [.scalar name true] (.scalar none name true) (.value :: (value.tokens ++ t :: more)) :=
    Reading.nodeUnless_of_node (by simp) (Reading.node_scalar fuel true true name true _)
  have sign : Reads (Reading.valueUnless (fuel + 2) true [.key, .value, .blockEnd])
      (.value :: value.tokens) value.node (t :: more) := by
    have read := first fuel (by omega) t other more
    rw [begins] at read ⊢
    exact Reading.valueUnless_of_nodeUnless (Reading.nodeUnless_of_node present read)
  have tokens : s.tokens =
      .key :: ([.scalar name true] ++ (.value :: (value.tokens ++ t :: more))) := by
    rw [ahead, fieldsTokens, fieldTokens, ← next]
    simp
  rcases key (s.goTo ([.scalar name true] ++ (.value :: (value.tokens ++ t :: more)))) rfl with
    ⟨n, named⟩
  rcases sign { s with tokens := .value :: (value.tokens ++ t :: more), size := n } rfl with
    ⟨n', valued⟩
  have last : t :: more = fieldsTokens rest ++ [.blockEnd] ++ behind := by
    rw [← next, List.append_assoc, List.singleton_append]
  rcases others (fuel + 2) (by omega) behind { s with tokens := t :: more, size := n' } last with
    ⟨size, entries⟩
  refine ⟨size, ?_⟩
  rw [Reading.blockEntries, tokens]
  simp only [named]
  simp only [Reading.goTo, valued, entries]
  rfl

theorem readsBack_record {f : String × Form} {rest : List (String × Form)}
    (fields : FieldsReadBack (f :: rest)) (indentless : Bool) {fuel : Nat}
    (enough : 2 * (record (f :: rest)).tokens.length + 2 ≤ fuel) (behind : List Token) :
    Reads (Reading.node fuel true indentless) (record (f :: rest)).tokens (record (f :: rest)).node
      behind := by
  have listed : (record (f :: rest)).tokens =
      .blockMappingStart :: (fieldsTokens (f :: rest) ++ [.blockEnd]) := rfl
  rw [listed, List.length_cons, List.length_append] at enough
  obtain ⟨fuel, rfl⟩ : ∃ f, fuel = f + 1 := ⟨fuel - 1, by omega⟩
  exact Reading.node_mapping indentless (fields fuel (by omega) behind)

theorem length_itemTokens (items : List String) :
    (itemTokens items).length = 2 * items.length := by
  induction items with
  | nil => rfl
  | cons s rest ih =>
      have step : itemTokens (s :: rest) = [.blockEntry, textToken s] ++ itemTokens rest := rfl
      rw [step, List.length_append, ih]
      simp only [List.length_cons, List.length_nil]
      omega

mutual

theorem readsBack : ∀ value : Form, value.ReadsBack
  | text s => fun fuel enough t _ rest => by
      obtain ⟨fuel, rfl⟩ : ∃ f, fuel = f + 1 := ⟨fuel - 1, by omega⟩
      exact Reading.node_scalar fuel true true s _ (t :: rest)
  | list [] => fun fuel enough t _ rest => by
      obtain ⟨fuel, rfl⟩ : ∃ f, fuel = f + 2 := ⟨fuel - 2, by omega⟩
      exact Reading.node_empty true fuel true true (t :: rest)
  | list (s :: items) => fun fuel enough t other rest => by
      have listed : (list (s :: items)).tokens = itemTokens (s :: items) := rfl
      rw [listed, length_itemTokens, List.length_cons] at enough
      exact Reading.node_list (List.cons_ne_nil s items) (by rw [List.length_cons]; omega) other rest
  | record [] => fun fuel enough t _ rest => by
      obtain ⟨fuel, rfl⟩ : ∃ f, fuel = f + 2 := ⟨fuel - 2, by omega⟩
      exact Reading.node_empty false fuel true true (t :: rest)
  | record (f :: fields) => fun _ enough _ _ rest =>
      readsBack_record (fieldsReadBack (f :: fields)) true enough _

theorem fieldsReadBack : ∀ fields : List (String × Form), FieldsReadBack fields
  | [] => fieldsReadBack_nil
  | (name, value) :: rest => fieldsReadBack_cons name (readsBack value) (fieldsReadBack rest)

end

/-- A document that begins with a mapping has neither directives nor markers. -/
theorem ofTokens_mapping {tokens : List Token} (begins : ∃ rest, tokens = .blockMappingStart :: rest) :
    Document.ofTokens tokens =
      ((Reading.ofTokens tokens []).node (8 * tokens.length + 8) true false).2.finish
        ((Reading.ofTokens tokens []).node (8 * tokens.length + 8) true false).1 := by
  rcases begins with ⟨rest, rfl⟩
  rfl

/-- The document of the tokens of a text. -/
theorem ofTokens_write (f : String × Form) (rest : List (String × Form)) :
    ∃ size, Document.ofTokens
        (.blockMappingStart :: fieldsTokens (f :: rest) ++ [.blockEnd, .streamEnd]) =
      ⟨some (record (f :: rest)).node, [], size, true, false⟩ := by
  have listed : .blockMappingStart :: fieldsTokens (f :: rest) ++ [.blockEnd, .streamEnd] =
      (record (f :: rest)).tokens ++ [.streamEnd] := by
    change _ = (.blockMappingStart :: fieldsTokens (f :: rest) ++ [.blockEnd]) ++ [.streamEnd]
    simp
  -- Each token is worth two units of fuel, and eight are given for it.
  have enough : 2 * (record (f :: rest)).tokens.length + 2 ≤
      8 * ((record (f :: rest)).tokens ++ [Token.streamEnd]).length + 8 := by
    rw [List.length_append]
    omega
  rcases readsBack_record (fieldsReadBack (f :: rest)) false enough [.streamEnd]
    (Reading.ofTokens ((record (f :: rest)).tokens ++ [.streamEnd]) []) rfl with ⟨size, read⟩
  have begins : ∃ tail, (record (f :: rest)).tokens ++ [.streamEnd] = .blockMappingStart :: tail :=
    ⟨_, rfl⟩
  refine ⟨size, ?_⟩
  rw [listed, ofTokens_mapping begins, read]
  rfl

/-! ## Data -/

mutual

/-- The datum that a value says. -/
def datum : Form → Datum
  | text s => .text s
  | list items => .list (items.map .text)
  | record fields => .record (fieldsData fields)

def fieldsData : List (String × Form) → List (Datum × Datum)
  | [] => []
  | f :: rest => fieldDatum f :: fieldsData rest

def fieldDatum : String × Form → Datum × Datum
  | (name, value) => (.text name, value.datum)

end

mutual

/-- How deep collections stand in each other. -/
def depth : Form → Nat
  | text _ => 0
  | list _ => 1
  | record fields => fieldsDepth fields + 1

def fieldsDepth : List (String × Form) → Nat
  | [] => 0
  | f :: rest => max (fieldDepth f) (fieldsDepth rest)

def fieldDepth : String × Form → Nat
  | (_, value) => value.depth

end

theorem scalarDatum_text (place : Place) (s : String) :
    Document.scalarDatum .full place none s (Style.ofText s == .plain) = .text s := by
  by_cases plain : Style.ofText s = .plain
  · rcases isPlain_of_style plain with ⟨c, cs, isPlain⟩
    simp [Document.scalarDatum, scalarFound, untaggedFound, plain, isPlain.found, Datum.ofFound,
      Document.withTag, localTag]
  · have quoted : (Style.ofText s == .plain) = false := by simpa using plain
    simp [Document.scalarDatum, scalarFound, untaggedFound, quoted, Datum.ofFound,
      Document.withTag, localTag]

/-- A text is the same datum at any depth. -/
theorem datumAt_text (d : Document) (depth : Nat) (place : Place) (s : String) :
    d.datumAt .full depth place (textNode s) = pure (.text s) := by
  have scalar : d.datumAt .full depth place (textNode s) =
      (pure (Document.scalarDatum .full place none s (Style.ofText s == .plain)) : Bounded Datum) := by
    cases depth <;> rfl
  rw [scalar, scalarDatum_text]

theorem datumAt_name (d : Document) (depth : Nat) (place : Place) {name : String}
    (isName : IsName name) :
    d.datumAt .full depth place (.scalar none name true) = pure (.text name) := by
  have plain : textNode name = .scalar none name true := by rw [textNode, isName.1]; rfl
  rw [← plain]
  exact datumAt_text d depth place name

theorem itemsOf_texts (d : Document) (depth : Nat) (place : Place) (items : List String)
    (index : Nat) :
    Document.itemsOf (d.datumAt .full depth) place index (items.map textNode) =
      pure (items.map .text) := by
  induction items generalizing index with
  | nil => rfl
  | cons s rest ih =>
      rw [List.map_cons, Document.itemsOf, datumAt_text, pure_bind, ih, pure_bind, List.map_cons]

/-- A key does not stand among others. -/
theorem sameAs_names {name : String} {names : List String} (absent : name ∉ names) :
    ((names.map Datum.text).any fun other => other.sameAs (.text name)) = false := by
  rw [List.any_eq_false]
  intro other mem
  rcases List.mem_map.1 mem with ⟨known, there, rfl⟩
  have differ : known ≠ name := fun same => absent (same ▸ there)
  simpa [Datum.sameAs] using differ

/-- A value says its datum where collections may stand deep enough. -/
def Means (value : Form) : Prop :=
  ∀ (d : Document) (depth : Nat) (_ : value.depth ≤ depth) (place : Place),
    d.datumAt .full depth place value.node = pure value.datum

/-- So do fields behind others with different names. -/
def FieldsMean (fields : List (String × Form)) : Prop :=
  ∀ (d : Document) (depth : Nat) (_ : fieldsDepth fields ≤ depth) (place : Place)
    (seen : List String) (_ : ∀ f ∈ fields, f.1 ∉ seen),
    Document.fieldsOf .full (d.datumAt .full depth) place (seen.map .text) (fieldNodes fields) =
      pure (fieldsData fields)

theorem means_list (items : List String) : Means (list items) := by
  intro d depth deep place
  obtain ⟨depth, rfl⟩ : ∃ n, depth = n + 1 := ⟨depth - 1, by rw [Form.depth] at deep; omega⟩
  have read : d.datumAt .full (depth + 1) place (list items).node =
      (do
        let ds ← Document.itemsOf (d.datumAt .full depth) place 0 (items.map textNode)
        pure (Document.withTag .full place none (.list ds))) := rfl
  rw [read, itemsOf_texts, pure_bind]
  rfl

theorem means_record {fields : List (String × Form)} (means : FieldsMean fields) :
    Means (record fields) := by
  intro d depth deep place
  obtain ⟨depth, rfl⟩ : ∃ n, depth = n + 1 := ⟨depth - 1, by rw [Form.depth] at deep; omega⟩
  have read : d.datumAt .full (depth + 1) place (record fields).node =
      (do
        let entries ← Document.fieldsOf .full (d.datumAt .full depth) place [] (fieldNodes fields)
        pure (Document.withTag .full place none (.record entries))) := rfl
  have inner : fieldsDepth fields ≤ depth := by
    rw [Form.depth] at deep
    omega
  have entries := means d depth inner place [] (fun _ _ => List.not_mem_nil)
  rw [List.map_nil] at entries
  rw [read, entries, pure_bind]
  rfl

theorem fieldsMean_cons {name : String} {value : Form} {rest : List (String × Form)}
    (isName : IsName name) (differs : name ∉ rest.map Prod.fst) (first : Means value)
    (others : FieldsMean rest) : FieldsMean ((name, value) :: rest) := by
  intro d depth deep place seen absent
  rw [fieldsDepth, fieldDepth] at deep
  have unseen := sameAs_names (absent (name, value) (List.mem_cons_self ..))
  have later : ∀ f ∈ rest, f.1 ∉ name :: seen := by
    intro f mem known
    rcases List.mem_cons.1 known with same | earlier
    · exact differs (same ▸ List.mem_map_of_mem mem)
    · exact absent f (List.mem_cons_of_mem _ mem) earlier
  have behind := others d depth (Nat.le_trans (Nat.le_max_right _ _) deep) place (name :: seen) later
  have here := first d depth (Nat.le_trans (Nat.le_max_left _ _) deep)
    (Document.valuePlace place (.scalar none name true))
  rw [List.map_cons] at behind
  rw [fieldNodes, fieldNode, Document.fieldsOf, datumAt_name d depth place isName, pure_bind, unseen]
  simp only [Bool.and_false, Bool.false_eq_true, if_false]
  rw [here, pure_bind, behind, pure_bind]
  rfl

mutual

theorem means : ∀ value : Form, value.Proper → Means value
  | text s, _ => fun d depth _ place => datumAt_text d depth place s
  | list items, _ => means_list items
  | record fields, ⟨differ, proper⟩ => means_record (fieldsMean fields differ proper)

theorem fieldsMean : ∀ fields : List (String × Form), (fields.map Prod.fst).Nodup →
    FieldsProper fields → FieldsMean fields
  | [], _, _ => fun _ _ _ _ _ _ => rfl
  | (_, value) :: rest, differ, ⟨⟨isName, first⟩, others⟩ =>
    fieldsMean_cons isName (List.nodup_cons.1 differ).1 (means value first)
      (fieldsMean rest (List.nodup_cons.1 differ).2 others)

end

/-! ## Whole texts -/

theorem checkItems_texts (items : List String) :
    Datum.checkItems (items.map .text) = .ok () := by
  induction items with
  | nil => rfl
  | cons s rest ih => rw [List.map_cons, Datum.checkItems, ih]; rfl

mutual

/-- Nothing is wrong in the datum of a value. -/
theorem check_datum : ∀ value : Form, value.datum.check = .ok ()
  | text _ => rfl
  | list items => checkItems_texts items
  | record fields => checkFields_data fields

theorem checkFields_data : ∀ fields, Datum.checkFields (fieldsData fields) = .ok ()
  | [] => rfl
  | (name, value) :: rest => by
      have first := check_datum value
      have others := checkFields_data rest
      rw [fieldsData, fieldDatum, Datum.checkFields, Datum.checkField, first, others]
      rfl

end

/-- The text of a record is read back as the datum that the record says. -/
theorem decode_write {f : String × Form} {rest : List (String × Form)}
    (proper : (record (f :: rest)).Proper) (shallow : (record (f :: rest)).depth ≤ depthLimit) :
    Document.decode Definition.fileDatum (write (f :: rest)) =
      .ok (record (f :: rest)).datum := by
  rcases ofTokens_write f rest with ⟨size, document⟩
  have text : Document.ofText (write (f :: rest)) =
      ⟨some (record (f :: rest)).node, [], size, true, false⟩ := by
    rw [Document.ofText, tokensOf_write proper.2, document]
  have datum : Document.datum ⟨some (record (f :: rest)).node, [], size, true, false⟩ .full =
      (record (f :: rest)).datum := by
    change Document.bounded _ (Document.datumAt _ .full depthLimit .root (record (f :: rest)).node) = _
    rw [means _ proper _ depthLimit shallow]
    rfl
  have read : Definition.fileDatum ⟨some (record (f :: rest)).node, [], size, true, false⟩ =
      .ok (record (f :: rest)).datum := by
    rw [Definition.fileDatum, datum, check_datum]
    rfl
  rw [Document.decode, text]
  simp only [read]
  rfl

end Form
end Yaml
end CiPipeline
