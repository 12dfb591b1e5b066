import MergeBench.Proofs.Yaml.PlainLine
import MergeBench.Yaml.Data

/-!
The data of a mapping with one entry, both its sides plain scalars. The tag that the text of the value
gets decides what the value is, and nothing else does.
-/

namespace MergeBench.Yaml

/-! ### The value of a plain scalar -/

/-- What a scalar with this tag stands for. The keys `<<` and `=` stand for nothing. -/
def taggedValue (text : String) : Tag → Except DataError Value
  | .null => .ok .null
  | .bool => (truthOf text).map .bool
  | .int => (integerOf text).map .int
  | .float => (floatOf text).map .float
  | .timestamp => timestampOf text
  | .text => .ok (.text text)
  | _ => .error .malformed

def plainValue (text : String) : Except DataError Value :=
  taggedValue text (Tag.ofScalar text)

namespace Tag

def scalars : List Tag :=
  [.null, .bool, .int, .float, .timestamp, .text]

/-- A plain scalar is one of these, or no data at all. -/
theorem ofScalar_mem (text : String) :
    ofScalar text ∈ scalars ∨ ofScalar text ∈ [.merge, .value, .unknown] := by
  unfold ofScalar
  dsimp only
  repeat' split
  all_goals simp [scalars]

end Tag

/-! ### Assembling the entry -/

theorem run_bind_of_run {σ ε α β : Type} {x : StateT σ (Except ε) α}
    {f : α → StateT σ (Except ε) β} {s : σ} {r : Except ε (α × σ)} (h : x.run s = r) :
    (x >>= f).run s = r.bind fun p => (f p.1).run p.2 := by
  rw [StateT.run_bind, h]
  rfl

section Entry

variable (key text : String) (tag : Tag)

/-- The nodes of the mapping, of its key and of its value. -/
def entryNodes : Array Node :=
  #[⟨.mapping, .mapping [(1, 2)]⟩, ⟨.text, .scalar key⟩, ⟨tag, .scalar text⟩]

/-- The mapping waits for its parts. -/
def entryStart : Assembly :=
  ⟨entryNodes key text tag, #[some (.map []), none, none], []⟩

/-- The key is made, and its value comes next. -/
def entryKeyed : Assembly :=
  ⟨entryNodes key text tag, #[some (.map []), some (.plain (.text key)), none], []⟩

theorem run_mappingEntries :
    (mappingEntries [(1, 2)] []).run (entryStart key text tag) =
      ((makePart 2).run (entryKeyed key text tag)).map fun p =>
        ([(⟨.text key, 1⟩, 2)], p.2) := by
  have hkey : (makePart 1).run (entryStart key text tag) =
      .ok (.plain (.text key), entryKeyed key text tag) := rfl
  unfold mappingEntries
  rw [run_bind_of_run hkey]
  change (makePart 2 >>= fun _ => _ : Assembler (List (Key × Nat))).run (entryKeyed key text tag) = _
  rw [StateT.run_bind]
  rfl

theorem run_readMapping :
    (readMapping 0).run (entryStart key text tag) =
      ((makePart 2).run (entryKeyed key text tag)).map fun p => ([(.text key, 2)], p.2) := by
  have hflatten : (flatten (flattenFuel (entryStart key text tag)) 0).run
      (entryStart key text tag) = .ok ((), entryStart key text tag) := rfl
  change (flatten (flattenFuel (entryStart key text tag)) 0 >>= fun _ => get >>= fun a =>
    mappingEntries (a.entries 0) [] >>= fun entries =>
      pure (entries.map fun e => (e.1.value, e.2)) : Assembler (List (Value × Nat))).run
        (entryStart key text tag) = _
  rw [run_bind_of_run hflatten]
  change (mappingEntries [(1, 2)] [] >>= fun entries =>
    pure (entries.map fun e => (e.1.value, e.2)) : Assembler (List (Value × Nat))).run
      (entryStart key text tag) = _
  rw [run_bind_of_run (run_mappingEntries key text tag)]
  cases (makePart 2).run (entryKeyed key text tag) <;> rfl

theorem run_fill :
    (fill 0).run (entryStart key text tag) =
      ((makePart 2).run (entryKeyed key text tag)).map fun p =>
        ((), p.2.setPart 0 (.map [(.text key, 2)])) := by
  change ((Part.map <$> readMapping 0) >>= fun filled =>
    modify fun a => a.setPart 0 filled : Assembler Unit).run (entryStart key text tag) = _
  rw [StateT.run_bind, StateT.run_map, run_readMapping]
  cases (makePart 2).run (entryKeyed key text tag) <;> rfl

/-- Whatever the value of the entry comes to, the mapping comes to. -/
theorem value_of_makePart {r : Except DataError Value}
    (h : (makePart 2).run (entryKeyed key text tag) =
      r.map fun v => (.plain v, (entryKeyed key text tag).setPart 2 (.plain v))) :
    (⟨entryNodes key text tag, 0⟩ : Document).value = r.map fun v => .map [(.text key, v)] := by
  let waiting : Assembly := { entryStart key text tag with queue := [0] }
  have hroot : (makePart 0).run ⟨entryNodes key text tag, Array.replicate 3 none, []⟩ =
      .ok (.map [], waiting) := rfl
  have hfill : (fillAll 4).run waiting =
      ((fill 0).run (entryStart key text tag)).bind fun p => (fillAll 3).run p.2 := by
    change (fill 0 >>= fun _ => fillAll 3).run (entryStart key text tag) = _
    rw [StateT.run_bind]
    rfl
  change (StateT.run (makePart 0 >>= fun _ => fillAll 4 >>= fun _ => get >>= fun a =>
    pure ((a.part? 0).getD (.plain .null)))
      ⟨entryNodes key text tag, Array.replicate 3 none, []⟩ >>= fun p =>
        pure (p.1.value (p.2.value 4 []))) = _
  rw [run_bind_of_run hroot]
  change (StateT.run (fillAll 4 >>= fun _ => get >>= fun a =>
    pure ((a.part? 0).getD (.plain .null))) waiting >>= fun p =>
      pure (p.1.value (p.2.value 4 []))) = _
  rw [run_bind_of_run hfill, run_fill, h]
  cases r <;> rfl

variable {tag}

theorem scalarValue_entryKeyed (htag : tag ∈ Tag.scalars) :
    scalarValue (entryKeyed key text tag) 2 tag = taggedValue text tag := by
  simp only [Tag.scalars, List.mem_cons, List.not_mem_nil, or_false] at htag
  rcases htag with rfl | rfl | rfl | rfl | rfl | rfl
  · rfl
  · change (truthOf text >>= fun b => pure (Value.bool b)) = (truthOf text).map .bool
    cases truthOf text <;> rfl
  · change (integerOf text >>= fun n => pure (Value.int n)) = (integerOf text).map .int
    cases integerOf text <;> rfl
  · change (floatOf text >>= fun x => pure (Value.float x)) = (floatOf text).map .float
    cases floatOf text <;> rfl
  · rfl
  · rfl

theorem makePart_scalar (htag : tag ∈ Tag.scalars) :
    (makePart 2).run (entryKeyed key text tag) =
      (taggedValue text tag).map fun v =>
        (.plain v, (entryKeyed key text tag).setPart 2 (.plain v)) := by
  have hmake : (makePart 2).run (entryKeyed key text tag) =
      ((liftM (scalarValue (entryKeyed key text tag) 2 tag) : Assembler Value) >>= fun v =>
        set ((entryKeyed key text tag).setPart 2 (.plain v)) >>= fun _ =>
          pure (Part.plain v) : Assembler Part).run (entryKeyed key text tag) := by
    simp only [Tag.scalars, List.mem_cons, List.not_mem_nil, or_false] at htag
    rcases htag with rfl | rfl | rfl | rfl | rfl | rfl <;> rfl
  rw [hmake, scalarValue_entryKeyed key text htag]
  cases taggedValue text tag <;> rfl

theorem makePart_no_data (htag : tag ∈ [Tag.merge, .value, .unknown]) :
    (makePart 2).run (entryKeyed key text tag) =
      (taggedValue text tag).map fun v =>
        (.plain v, (entryKeyed key text tag).setPart 2 (.plain v)) := by
  simp only [List.mem_cons, List.not_mem_nil, or_false] at htag
  rcases htag with rfl | rfl | rfl <;> rfl

end Entry

/-! ### Reading the entry -/

theorem ofTokens?_entryTokens {key : String} (hkey : Tag.ofScalar key = .text) (text : String) :
    Document.ofTokens? (entryTokens key text) =
      .ok (some ⟨entryNodes key text (Tag.ofScalar text), 0⟩) := by
  have hread : Document.ofTokens? (entryTokens key text) =
      .ok (some ⟨#[⟨.mapping, .mapping [(1, 2)]⟩, ⟨Tag.ofScalar key, .scalar key⟩,
        ⟨Tag.ofScalar text, .scalar text⟩], 0⟩) := rfl
  rw [hread, hkey]
  rfl

/-- A text with the tokens of one entry holds that entry, if its value is data. -/
theorem read_of_tokens {content key text : String} (hkey : Tag.ofScalar key = .text)
    (h : tokens content = entryTokens key text) :
    read content = (plainValue text).map fun v => .map [(.text key, v)] := by
  have hvalue : (⟨entryNodes key text (Tag.ofScalar text), 0⟩ : Document).value =
      (plainValue text).map fun v => .map [(.text key, v)] := by
    apply value_of_makePart
    rcases Tag.ofScalar_mem text with htag | htag
    · exact makePart_scalar key text htag
    · exact makePart_no_data key text htag
  rw [read, h, ofTokens?_entryTokens hkey]
  exact hvalue

end MergeBench.Yaml
