import BlockTemplates.Json.Document

/-! The tokens of a JSON document, and reading them. A reader that waits for a value and is given the
tokens of a document holds that document afterwards, whatever is still open around it. Main
statement: `ofTokens?_tokens`. -/

namespace BlockTemplates.Json

mutual

def tokens : Json → List Token
  | .null => [.null]
  | .bool b => [.bool b]
  | .number n => [.number n]
  | .string text => [.string text]
  | .array items => .openArray :: ([Token.comma].intercalate (itemTokens items) ++ [.closeArray])
  | .object members => .openObject :: ([Token.comma].intercalate (memberTokens members) ++ [.closeObject])

def itemTokens : List Json → List (List Token)
  | [] => []
  | item :: rest => tokens item :: itemTokens rest

def memberTokens : List (Text × Json) → List (List Token)
  | [] => []
  | (key, item) :: rest => (.string key :: .colon :: tokens item) :: memberTokens rest

end

theorem intercalate_cons {α : Type} (separator first : List α) (others : List (List α)) :
    separator.intercalate (first :: others) = first ++ others.flatMap (separator ++ ·) := by
  induction others generalizing first with
  | nil => simp
  | cons next others ih =>
    rw [List.intercalate_cons_cons, ih, List.flatMap_cons, List.append_assoc, List.append_assoc]

namespace Reading

theorem run?_firstItem (document : Json) (stack : List Frame) (rest : List Token) :
    run? ⟨stack, .firstItem⟩ (document.tokens ++ rest) = run? ⟨stack, .value⟩ (document.tokens ++ rest) := by
  cases document <;> rfl

mutual

/-- By recursion on the document; the stack stays as it is below the document that is read. -/
theorem run?_tokens : ∀ (document : Json) (stack : List Frame) (rest : List Token),
    run? ⟨stack, .value⟩ (document.tokens ++ rest) = run? ⟨stack, .after document⟩ rest
  | .null, _, _ => rfl
  | .bool _, _, _ => rfl
  | .number _, _, _ => rfl
  | .string _, _, _ => rfl
  | .array [], _, _ => rfl
  | .array (item :: items), stack, rest => by
    rw [tokens, itemTokens, intercalate_cons, List.cons_append, List.append_assoc, List.append_assoc]
    change run? ⟨.array [] :: stack, .firstItem⟩ (item.tokens ++ _) = _
    rw [run?_firstItem, run?_tokens item]
    exact run?_items items item [] stack rest
  | .object [], _, _ => rfl
  | .object ((key, item) :: members), stack, rest => by
    rw [tokens, memberTokens, intercalate_cons, List.cons_append, List.append_assoc, List.append_assoc]
    change run? ⟨.object [] key :: stack, .value⟩ (item.tokens ++ _) = _
    rw [run?_tokens item]
    exact run?_members members key item [] stack rest

/-- The items of an array after the first ones, of which `last` is the latest. -/
theorem run?_items : ∀ (items : List Json) (last : Json) (done : List Json) (stack : List Frame)
    (rest : List Token),
    run? ⟨.array done :: stack, .after last⟩
        ((itemTokens items).flatMap ([Token.comma] ++ ·) ++ (.closeArray :: rest)) =
      run? ⟨stack, .after (.array (done.reverse ++ last :: items))⟩ rest
  | [], last, done, stack, rest => by
    change run? ⟨stack, .after (.array (last :: done).reverse)⟩ rest = _
    rw [List.reverse_cons]
  | item :: items, last, done, stack, rest => by
    have further := run?_items items item (last :: done) stack rest
    rw [List.reverse_cons, List.append_assoc] at further
    rw [itemTokens, List.flatMap_cons, List.append_assoc]
    change run? ⟨.array (last :: done) :: stack, .value⟩ (item.tokens ++ _) = _
    rw [run?_tokens item]
    exact further

theorem run?_members : ∀ (members : List (Text × Json)) (key : Text) (last : Json)
    (done : List (Text × Json)) (stack : List Frame) (rest : List Token),
    run? ⟨.object done key :: stack, .after last⟩
        ((memberTokens members).flatMap ([Token.comma] ++ ·) ++ (.closeObject :: rest)) =
      run? ⟨stack, .after (.object (done.reverse ++ (key, last) :: members))⟩ rest
  | [], key, last, done, stack, rest => by
    change run? ⟨stack, .after (.object ((key, last) :: done).reverse)⟩ rest = _
    rw [List.reverse_cons]
  | (name, item) :: members, key, last, done, stack, rest => by
    have further := run?_members members name item ((key, last) :: done) stack rest
    rw [List.reverse_cons, List.append_assoc] at further
    rw [memberTokens, List.flatMap_cons, List.append_assoc]
    change run? ⟨.object ((key, last) :: done) name :: stack, .value⟩ (item.tokens ++ _) = _
    rw [run?_tokens item]
    exact further

end

end Reading

theorem ofTokens?_tokens (document : Json) : ofTokens? document.tokens = some document := by
  have read := Reading.run?_tokens document [] []
  rw [List.append_nil] at read
  unfold ofTokens?
  rw [read]
  rfl

theorem ofText?_of_tokens {text : String} {document : Json} (scanned : tokens? text.toList = some document.tokens) :
    ofText? text = some document := by
  unfold ofText?
  rw [scanned]
  exact ofTokens?_tokens document

end BlockTemplates.Json
