import ResourceFeed.Proofs.Json.Numerals
import ResourceFeed.Proofs.Json.WellFormed
import ResourceFeed.Proofs.Text.Utf8

/-! # Printed values are read back

    The text of a value has the tokens of a draft, these tokens make that
    draft, and the value of the draft is the value that was printed.  Strings
    and integers need nothing for that, and how deep arrays and objects nest
    is known.

    Floating-point numbers are different.  The reader may round twice, so that
    a number can come out as one of its neighbours.  So what is read back are
    the values whose floating-point numbers are, each by itself.
-/

namespace ResourceFeed.Json

/-! ### Tokens of a draft -/

namespace Draft

mutual

/-- The tokens that make a draft. -/
def tokens : Draft → List Token
  | .word spelled => [.word spelled]
  | .numeral written => [.numeral written]
  | .string parts => [.string parts]
  | .array items => .openArray :: (itemTokens items ++ [.closeArray])
  | .object members => .openObject :: (memberTokens members ++ [.closeObject])

/-- The tokens of items, between commas. -/
def itemTokens : List Draft → List Token
  | [] => []
  | [item] => tokens item
  | item :: rest => tokens item ++ .comma :: itemTokens rest

/-- The tokens of members, between commas. -/
def memberTokens : List (List StringPart × Draft) → List Token
  | [] => []
  | [(name, value)] => .string name :: .colon :: tokens value
  | (name, value) :: rest =>
    .string name :: .colon :: (tokens value ++ .comma :: memberTokens rest)

end

theorem itemTokens_cons (item next : Draft) (rest : List Draft) :
    itemTokens (item :: next :: rest) = tokens item ++ .comma :: itemTokens (next :: rest) := rfl

theorem memberTokens_cons (name : List StringPart) (value : Draft)
    (next : List StringPart × Draft) (rest : List (List StringPart × Draft)) :
    memberTokens ((name, value) :: next :: rest) =
      .string name :: .colon :: (tokens value ++ .comma :: memberTokens (next :: rest)) := rfl

/-! ### The machine takes the tokens of a draft -/

section machine
variable {stack : List Frame}

/-- Where a value begins, a token is taken for one. -/
theorem step?_value (stack : List Frame) (token : Token) :
    Machine.step? ⟨stack, .value⟩ token = Machine.value? stack token := by
  rcases stack with _ | ⟨_ | _ | _, _⟩ <;> cases token <;> rfl

/-- So it is where the first item of an array may be, unless the array is closed. -/
theorem step?_firstItem {token : Token} (hopen : token ≠ .closeArray) (stack : List Frame) :
    Machine.step? ⟨stack, .firstItem⟩ token = Machine.step? ⟨stack, .value⟩ token := by
  rw [step?_value]
  cases token with
  | closeArray => exact absurd rfl hopen
  | _ => rcases stack with _ | ⟨_ | _ | _, _⟩ <;> rfl

/-- Where a name may come, a string is taken for one. -/
theorem step?_name {phase : Phase} (hphase : phase = .firstName ∨ phase = .name)
    {members : List (List StringPart × Draft)} {stack : List Frame} {name : List StringPart} :
    Machine.step? ⟨.object members :: stack, phase⟩ (.string name) =
      some ⟨.member members name :: stack, .colon⟩ := by
  rcases hphase with rfl | rfl <;> rfl

/-- A token that is a value by itself. -/
theorem foldlM_singleton (machine : Machine) (token : Token) :
    [token].foldlM Machine.step? machine = machine.step? token := by
  rw [List.foldlM_cons]
  cases machine.step? token with
  | none => rfl
  | some next => rfl

/-- Tokens come after a value that was completed. -/
theorem foldlM_append_of_complete {front back : List Token} {machine next : Machine}
    (hfront : front.foldlM Machine.step? machine = some next) :
    (front ++ back).foldlM Machine.step? machine = back.foldlM Machine.step? next := by
  rw [List.foldlM_append, hfront]
  rfl

/-- No value begins with the bracket that closes an array. -/
theorem exists_tokens (draft : Draft) :
    ∃ first rest, draft.tokens = first :: rest ∧ first ≠ .closeArray := by
  cases draft with
  | word spelled => exact ⟨_, _, rfl, nofun⟩
  | numeral written => exact ⟨_, _, rfl, nofun⟩
  | string parts => exact ⟨_, _, rfl, nofun⟩
  | array items => exact ⟨_, _, rfl, nofun⟩
  | object members => exact ⟨_, _, rfl, nofun⟩

theorem exists_itemTokens (draft : Draft) (others : List Draft) :
    ∃ first rest, itemTokens (draft :: others) = first :: rest ∧ first ≠ .closeArray := by
  obtain ⟨first, rest, htokens, hfirst⟩ := draft.exists_tokens
  cases others with
  | nil =>
    refine ⟨first, rest, ?_, hfirst⟩
    rw [itemTokens, htokens]
  | cons other others =>
    refine ⟨first, rest ++ .comma :: itemTokens (other :: others), ?_, hfirst⟩
    rw [itemTokens, htokens, List.cons_append]
    simp

mutual

/-- The tokens of a draft complete it where a value begins. -/
theorem foldlM_tokens : ∀ (draft : Draft) (stack : List Frame),
    draft.tokens.foldlM Machine.step? ⟨stack, .value⟩ = Machine.complete? stack draft
  | .word spelled, stack => by rw [tokens, foldlM_singleton, step?_value, Machine.value?]
  | .numeral written, stack => by rw [tokens, foldlM_singleton, step?_value, Machine.value?]
  | .string parts, stack => by rw [tokens, foldlM_singleton, step?_value, Machine.value?]
  | .array [], stack => by
    rw [tokens, List.foldlM_cons, step?_value, itemTokens, List.nil_append]
    exact foldlM_singleton ⟨.array [] :: stack, .firstItem⟩ .closeArray
  | .array (item :: rest), stack => by
    obtain ⟨first, later, htokens, hfirst⟩ := exists_itemTokens item rest
    have hitems := foldlM_itemTokens (item :: rest) nofun [] stack
    rw [htokens, List.cons_append, List.foldlM_cons, ← step?_firstItem hfirst] at hitems
    rw [tokens, List.foldlM_cons, step?_value, htokens, List.cons_append]
    exact hitems
  | .object [], stack => by
    rw [tokens, List.foldlM_cons, step?_value, memberTokens, List.nil_append]
    exact foldlM_singleton ⟨.object [] :: stack, .firstName⟩ .closeObject
  | .object (member :: rest), stack => by
    rw [tokens, List.foldlM_cons, step?_value]
    exact foldlM_memberTokens (member :: rest) nofun [] .firstName (.inl rfl) stack

/-- The tokens of the items that are left complete an array. -/
theorem foldlM_itemTokens : ∀ items : List Draft, items ≠ [] → ∀ (done : List Draft)
    (stack : List Frame),
    (itemTokens items ++ [Token.closeArray]).foldlM Machine.step? ⟨.array done :: stack, .value⟩ =
      Machine.complete? stack (.array (done.reverse ++ items))
  | [], hne, _, _ => absurd rfl hne
  | [item], _, done, stack => by
    have hitem := foldlM_tokens item (.array done :: stack)
    rw [itemTokens, foldlM_append_of_complete hitem, foldlM_singleton]
    show Machine.complete? stack (.array (item :: done).reverse) = _
    rw [List.reverse_cons]
  | item :: next :: rest, _, done, stack => by
    have hitem := foldlM_tokens item (.array done :: stack)
    have hrest := foldlM_itemTokens (next :: rest) nofun (item :: done) stack
    rw [itemTokens_cons, List.append_assoc, foldlM_append_of_complete hitem, List.cons_append,
      List.foldlM_cons]
    rw [List.reverse_cons, List.append_assoc] at hrest
    exact hrest

/-- The tokens of the members that are left complete an object. -/
theorem foldlM_memberTokens : ∀ members : List (List StringPart × Draft), members ≠ [] →
    ∀ (done : List (List StringPart × Draft)) (phase : Phase),
    phase = .firstName ∨ phase = .name → ∀ stack : List Frame,
    (memberTokens members ++ [Token.closeObject]).foldlM Machine.step?
        ⟨.object done :: stack, phase⟩ =
      Machine.complete? stack (.object (done.reverse ++ members))
  | [], hne, _, _, _, _ => absurd rfl hne
  | [(name, value)], _, done, phase, hphase, stack => by
    have hvalue := foldlM_tokens value (.member done name :: stack)
    rw [memberTokens, List.cons_append, List.foldlM_cons, step?_name hphase]
    show (.colon :: (value.tokens ++ [Token.closeObject])).foldlM Machine.step?
      ⟨.member done name :: stack, .colon⟩ = _
    rw [List.foldlM_cons]
    show (value.tokens ++ [Token.closeObject]).foldlM Machine.step?
      ⟨.member done name :: stack, .value⟩ = _
    rw [foldlM_append_of_complete hvalue, foldlM_singleton]
    show Machine.complete? stack (.object ((name, value) :: done).reverse) = _
    rw [List.reverse_cons]
  | (name, value) :: next :: rest, _, done, phase, hphase, stack => by
    have hvalue := foldlM_tokens value (.member done name :: stack)
    have hrest :=
      foldlM_memberTokens (next :: rest) nofun ((name, value) :: done) .name (.inr rfl) stack
    rw [memberTokens_cons, List.cons_append, List.foldlM_cons, step?_name hphase]
    show (.colon :: (value.tokens ++ .comma :: memberTokens (next :: rest) ++
      [Token.closeObject])).foldlM Machine.step? ⟨.member done name :: stack, .colon⟩ = _
    rw [List.foldlM_cons]
    show (value.tokens ++ .comma :: memberTokens (next :: rest) ++
      [Token.closeObject]).foldlM Machine.step? ⟨.member done name :: stack, .value⟩ = _
    rw [List.append_assoc, foldlM_append_of_complete hvalue, List.cons_append, List.foldlM_cons]
    rw [List.reverse_cons, List.append_assoc] at hrest
    exact hrest

end

/-- The tokens of a draft make that draft. -/
theorem ofTokens?_tokens (draft : Draft) : ofTokens? draft.tokens = some draft := by
  rw [ofTokens?, foldlM_tokens]
  rfl

end machine

/-! ### A numeral is a single token -/

/-- Whether a draft is an array or an object. -/
def IsCompound : Draft → Prop
  | .array _ | .object _ => True
  | _ => False

/-- The machine is inside of an array or object, or has just finished one. -/
def Machine.Inside (machine : Machine) : Prop :=
  match machine.phase with
  | .finished draft => draft.IsCompound
  | _ => machine.stack ≠ []

section inside
variable {stack : List Frame} {draft : Draft} {token : Token} {machine next : Machine}

/-- A value inside of something leaves the machine there. -/
theorem inside_of_complete (hstack : stack ≠ [] ∨ draft.IsCompound)
    (hnext : Machine.complete? stack draft = some next) : next.Inside := by
  rcases stack with _ | ⟨_ | _ | _, rest⟩
  · cases hnext
    exact hstack.resolve_left (fun hne => hne rfl)
  · cases hnext
    exact List.cons_ne_nil _ _
  · cases hnext
  · cases hnext
    exact List.cons_ne_nil _ _

theorem inside_of_value (hstack : stack ≠ []) (hnext : Machine.value? stack token = some next) :
    next.Inside := by
  cases token with
  | openArray =>
    cases hnext
    exact List.cons_ne_nil _ _
  | openObject =>
    cases hnext
    exact List.cons_ne_nil _ _
  | word => exact inside_of_complete (.inl hstack) hnext
  | numeral => exact inside_of_complete (.inl hstack) hnext
  | string => exact inside_of_complete (.inl hstack) hnext
  | _ => cases hnext

theorem inside_of_name (hnext : Machine.name? stack token = some next) : next.Inside := by
  unfold Machine.name? at hnext
  split at hnext
  · cases hnext
    exact List.cons_ne_nil _ _
  · cases hnext

theorem inside_of_array {items : List Draft}
    (hnext : Machine.complete? stack (.array items) = some next) : next.Inside := by
  have hcompound : (Draft.array items).IsCompound := trivial
  exact inside_of_complete (.inr hcompound) hnext

theorem inside_of_object {members : List (List StringPart × Draft)}
    (hnext : Machine.complete? stack (.object members) = some next) : next.Inside := by
  have hcompound : (Draft.object members).IsCompound := trivial
  exact inside_of_complete (.inr hcompound) hnext

/-- Inside of something every token leaves the machine inside, or finishes it. -/
theorem inside_of_step (hinside : machine.Inside) (hnext : machine.step? token = some next) :
    next.Inside := by
  obtain ⟨stack, phase⟩ := machine
  unfold Machine.step? at hnext
  simp only at hnext
  split at hnext
  · exact inside_of_array hnext
  · exact inside_of_value hinside hnext
  · exact inside_of_value hinside hnext
  · exact inside_of_object hnext
  · exact inside_of_name hnext
  · exact inside_of_name hnext
  · cases hnext
    exact hinside
  · exact inside_of_array hnext
  · cases hnext
    exact List.cons_ne_nil _ _
  · exact inside_of_object hnext
  · cases hnext
    exact List.cons_ne_nil _ _
  · cases hnext

theorem inside_of_foldlM {tokens : List Token} (hinside : machine.Inside)
    (hnext : tokens.foldlM Machine.step? machine = some next) : next.Inside := by
  induction tokens generalizing machine with
  | nil =>
    cases hnext
    exact hinside
  | cons token rest ih =>
    rw [List.foldlM_cons] at hnext
    obtain ⟨middle, hstep, hrest⟩ := Option.bind_eq_some_iff.mp hnext
    exact ih (inside_of_step hinside hstep) hrest

/-- After a finished value no token is taken. -/
theorem step?_finished (stack : List Frame) (draft : Draft) (token : Token) :
    Machine.step? ⟨stack, .finished draft⟩ token = none := by
  rcases stack with _ | ⟨_ | _ | _, _⟩ <;> cases token <;> rfl

/-- A value that is a single token has nothing after it. -/
theorem eq_of_finished {first draft : Draft} {tokens : List Token}
    (hlast : tokens.foldlM Machine.step? ⟨[], .finished first⟩ = some next)
    (hphase : next.phase = .finished draft) : tokens = [] ∧ first = draft := by
  cases tokens with
  | nil =>
    cases hlast
    cases hphase
    exact ⟨rfl, rfl⟩
  | cons token rest =>
    rw [List.foldlM_cons, step?_finished] at hlast
    cases hlast

/-- Tokens that make a numeral are that numeral alone. -/
theorem tokens_of_numeral {tokens : List Token} {numeral : Numeral}
    (hread : ofTokens? tokens = some (.numeral numeral)) : tokens = [.numeral numeral] := by
  obtain ⟨machine, hmachine, hfinished⟩ := Option.bind_eq_some_iff.mp hread
  have hphase : machine.phase = .finished (.numeral numeral) := by
    split at hfinished
    · rename_i draft hdraft
      cases hfinished
      exact hdraft
    · cases hfinished
  -- an array or object would be finished as one
  have houtside : ¬ machine.Inside := by
    unfold Machine.Inside
    rw [hphase]
    exact id
  cases tokens with
  | nil =>
    cases hmachine
    cases hphase
  | cons first rest =>
    rw [List.foldlM_cons, step?_value] at hmachine
    cases first with
    | openArray =>
      have hopened : Machine.Inside ⟨[.array []], .firstItem⟩ := List.cons_ne_nil _ _
      exact absurd (inside_of_foldlM hopened hmachine) houtside
    | openObject =>
      have hopened : Machine.Inside ⟨[.object []], .firstName⟩ := List.cons_ne_nil _ _
      exact absurd (inside_of_foldlM hopened hmachine) houtside
    | word spelled =>
      obtain ⟨-, hsame⟩ := eq_of_finished hmachine hphase
      cases hsame
    | numeral written =>
      obtain ⟨rfl, hsame⟩ := eq_of_finished hmachine hphase
      cases hsame
      rfl
    | string parts =>
      obtain ⟨-, hsame⟩ := eq_of_finished hmachine hphase
      cases hsame
    | _ => cases hmachine

end inside

end Draft

/-! ### The draft of a printed value -/

/-- The numeral that a text consists of, if it does. -/
def numeralOf (text : String) : Numeral :=
  match Token.ofChars? text.toList with
  | some [.numeral numeral] => numeral
  | _ => Token.wholeNumeral false 0

theorem numeralOf_eq {text : String} {numeral : Numeral}
    (htext : Token.ofChars? text.toList = some [.numeral numeral]) : numeralOf text = numeral := by
  rw [numeralOf, htext]

mutual

/-- The draft that a value is printed as. -/
def printedDraft : Json → Draft
  | .null => .word .null
  | .bool value => .word (if value then .true else .false)
  | .integer value => .numeral (numeralOf (toString value))
  | .float value => .numeral (numeralOf (Decimal.Layout.document.text value))
  | .text value => .string (Token.printedParts value)
  | .array items => .array (printedItems items)
  | .object members => .object (printedMembers members)

/-- The drafts of items. -/
def printedItems : List Json → List Draft
  | [] => []
  | item :: rest => printedDraft item :: printedItems rest

/-- The drafts of members. -/
def printedMembers : List (String × Json) → List (List StringPart × Draft)
  | [] => []
  | (name, value) :: rest => (Token.printedParts name, printedDraft value) :: printedMembers rest

end

/-- A floating-point number is read back by itself. -/
def FloatReadsBack (value : Float) : Prop :=
  ofText? (Decimal.Layout.document.text value) = some (.float value)

/-- Then its text is one numeral with its value. -/
theorem numeral_of_floatReadsBack {value : Float} (hreads : FloatReadsBack value) :
    Token.ofChars? (Decimal.Layout.document.text value).toList =
        some [.numeral (numeralOf (Decimal.Layout.document.text value))] ∧
      (numeralOf (Decimal.Layout.document.text value)).toJson? = some (.float value) := by
  obtain ⟨draft, hdraft, hvalue⟩ := Option.bind_eq_some_iff.mp hreads
  obtain ⟨tokens, htokens, hdraft⟩ := Option.bind_eq_some_iff.mp hdraft
  cases draft with
  | numeral numeral =>
    rw [Draft.tokens_of_numeral hdraft] at htokens
    rw [numeralOf_eq htokens]
    exact ⟨htokens, hvalue⟩
  | word spelled => cases spelled <;> cases hvalue
  | string parts =>
    obtain ⟨text, -, hsame⟩ := Option.map_eq_some_iff.mp hvalue
    cases hsame
  | array items =>
    obtain ⟨values, -, hsame⟩ := Option.map_eq_some_iff.mp hvalue
    cases hsame
  | object members =>
    obtain ⟨pairs, -, hsame⟩ := Option.map_eq_some_iff.mp hvalue
    cases hsame

/-! ### Its text -/

section text
open Token

theorem toList_render_array (items : List Json) :
    (render (.array items)).toList = ['['] ++ ((renderItems items).toList ++ [']']) := by
  have htext : render (.array items) = "[" ++ renderItems items ++ "]" := rfl
  rw [htext, String.toList_append, String.toList_append, List.append_assoc]
  rfl

theorem toList_render_object (members : List (String × Json)) :
    (render (.object members)).toList =
      ['\x7b'] ++ ((renderMembers members).toList ++ ['\x7d']) := by
  have htext : render (.object members) = "\x7b" ++ renderMembers members ++ "\x7d" := rfl
  rw [htext, String.toList_append, String.toList_append, List.append_assoc]
  rfl

theorem toList_renderItems_cons (item next : Json) (rest : List Json) :
    (renderItems (item :: next :: rest)).toList =
      (render item).toList ++ ',' :: (renderItems (next :: rest)).toList := by
  have htext : renderItems (item :: next :: rest) =
      render item ++ "," ++ renderItems (next :: rest) := rfl
  rw [htext, String.toList_append, String.toList_append, List.append_assoc]
  rfl

theorem toList_renderMembers_singleton (name : String) (value : Json) :
    (renderMembers [(name, value)]).toList =
      (stringText name).toList ++ ([':'] ++ (render value).toList) := by
  have htext : renderMembers [(name, value)] = stringText name ++ ":" ++ render value := rfl
  rw [htext, String.toList_append, String.toList_append, List.append_assoc]
  rfl

theorem toList_renderMembers_cons (name : String) (value : Json) (next : String × Json)
    (rest : List (String × Json)) :
    (renderMembers ((name, value) :: next :: rest)).toList =
      (stringText name).toList ++ ([':'] ++ ((render value).toList ++
        ',' :: (renderMembers (next :: rest)).toList)) := by
  have htext : renderMembers ((name, value) :: next :: rest) =
      stringText name ++ ":" ++ render value ++ "," ++ renderMembers (next :: rest) := rfl
  rw [htext]
  simp only [String.toList_append, List.append_assoc]
  rfl

/-! The characters that are a token by themselves. -/

theorem scans_comma : Scans .between [','] [.comma] .between := scans_of_step rfl

theorem scans_colon : Scans .between [':'] [.colon] .between := scans_of_step rfl

theorem scans_openArray : Scans .between ['['] [.openArray] .between := scans_of_step rfl

theorem scans_closeArray : Scans .between [']'] [.closeArray] .between := scans_of_step rfl

theorem scans_openObject : Scans .between ['\x7b'] [.openObject] .between := scans_of_step rfl

theorem scans_closeObject : Scans .between ['\x7d'] [.closeObject] .between := scans_of_step rfl

/-- What is spelled goes before a comma and what is spelled behind it. -/
theorem Token.Spells.append_comma {chars others : List Char} {tokens further : List Token}
    (hspells : Spells chars tokens) (hothers : Spells others further) :
    Spells (chars ++ ',' :: others) (tokens ++ .comma :: further) :=
  hspells.append rfl (scans_comma.append_spells hothers)

mutual

/-- The text of a value spells the tokens of its draft. -/
theorem spells_render : ∀ (json : Json) {depth : Nat}, json.WellFormed FloatReadsBack depth →
    Spells json.render.toList (printedDraft json).tokens
  | .null, _, _ => spells_null
  | .bool value, _, _ => spells_truth value
  | .integer value, _, _ => by
    have hnumeral := ofChars?_toString value
    rw [← numeralOf_eq hnumeral] at hnumeral
    exact spells_of_numeral hnumeral
  | .float value, _, hwellFormed =>
    spells_of_numeral (numeral_of_floatReadsBack hwellFormed).1
  | .text value, _, _ => (scans_stringText value).spells
  | .array [], _, _ => (scans_openArray.append scans_closeArray).spells
  | .array (item :: rest), depth + 1, hwellFormed => by
    have hitems := spells_renderItems (item :: rest) nofun hwellFormed
    rw [toList_render_array]
    exact scans_openArray.append_spells (hitems.append rfl scans_closeArray.spells)
  | .object [], _, _ => (scans_openObject.append scans_closeObject).spells
  | .object (member :: rest), depth + 1, hwellFormed => by
    have hmembers := spells_renderMembers (member :: rest) nofun hwellFormed.2
    rw [toList_render_object]
    exact scans_openObject.append_spells (hmembers.append rfl scans_closeObject.spells)

/-- The text of items spells their tokens. -/
theorem spells_renderItems : ∀ items : List Json, items ≠ [] → ∀ {depth : Nat},
    WellFormedItems FloatReadsBack depth items →
    Spells (renderItems items).toList (Draft.itemTokens (printedItems items))
  | [], hne, _, _ => absurd rfl hne
  | [item], _, _, hwellFormed => spells_render item hwellFormed.1
  | item :: next :: rest, _, _, hwellFormed => by
    have hitem := spells_render item hwellFormed.1
    have hrest := spells_renderItems (next :: rest) nofun hwellFormed.2
    rw [toList_renderItems_cons]
    exact hitem.append_comma hrest

/-- The text of members spells their tokens. -/
theorem spells_renderMembers : ∀ members : List (String × Json), members ≠ [] → ∀ {depth : Nat},
    WellFormedMembers FloatReadsBack depth members →
    Spells (renderMembers members).toList (Draft.memberTokens (printedMembers members))
  | [], hne, _, _ => absurd rfl hne
  | [(name, value)], _, _, hwellFormed => by
    have hvalue := spells_render value hwellFormed.1
    rw [toList_renderMembers_singleton]
    exact (scans_stringText name).append_spells (scans_colon.append_spells hvalue)
  | (name, value) :: next :: rest, _, _, hwellFormed => by
    have hvalue := spells_render value hwellFormed.1
    have hrest := spells_renderMembers (next :: rest) nofun hwellFormed.2
    rw [toList_renderMembers_cons]
    exact (scans_stringText name).append_spells
      (scans_colon.append_spells (hvalue.append_comma hrest))

end

end text

/-! ### Its value -/

/-- A code unit below the surrogates is the character of its number. -/
theorem characters?_printedPart (c : Char) (parts : List StringPart) :
    characters? (Token.printedPart c :: parts) = (characters? parts).map (c :: ·) := by
  unfold Token.printedPart
  split
  · rfl
  · rfl
  · rfl
  · rfl
  · rfl
  · by_cases hcontrol : c.toNat < 0x20
    · have hplain : c.toNat < 0xd800 := by omega
      rw [if_pos hcontrol, characters?.eq_def]
      simp only
      rw [if_pos (.inl hplain), Char.ofNat_toNat]
    · rw [if_neg hcontrol, characters?]

/-- A printed string is the text that was printed. -/
theorem string?_printedParts (text : String) : string? (Token.printedParts text) = some text := by
  have hchars : ∀ chars : List Char, characters? (chars.map Token.printedPart) = some chars := by
    intro chars
    induction chars with
    | nil => rfl
    | cons c rest ih => rw [List.map_cons, characters?_printedPart, ih, Option.map_some]
  rw [string?, Token.printedParts, hchars, Option.map_some, String.ofList_toList]

mutual

/-- The draft of a printed value has this value. -/
theorem ofDraft?_printedDraft : ∀ (json : Json) {depth : Nat},
    json.WellFormed FloatReadsBack depth → ofDraft? depth (printedDraft json) = some json
  | .null, _, _ => rfl
  | .bool true, _, _ => rfl
  | .bool false, _, _ => rfl
  | .integer value, _, hwellFormed => by
    rw [printedDraft, ofDraft?, numeralOf_eq (Token.ofChars?_toString value)]
    exact toJson?_wholeNumeral hwellFormed.1 hwellFormed.2
  | .float value, _, hwellFormed => by
    rw [printedDraft, ofDraft?]
    exact (numeral_of_floatReadsBack hwellFormed).2
  | .text value, _, _ => by
    rw [printedDraft, ofDraft?, string?_printedParts, Option.map_some]
  | .array items, depth + 1, hwellFormed => by
    have hitems := itemsOfDrafts?_printedItems items hwellFormed
    rw [printedDraft, ofDraft?, hitems, Option.map_some]
  | .object members, depth + 1, hwellFormed => by
    have hmembers := pairsOfDrafts?_printedMembers members hwellFormed.2
    rw [printedDraft, ofDraft?, hmembers, Option.map_some,
      Members.ofList_of_ordered hwellFormed.1]

theorem itemsOfDrafts?_printedItems : ∀ (items : List Json) {depth : Nat},
    WellFormedItems FloatReadsBack depth items →
      itemsOfDrafts? depth (printedItems items) = some items
  | [], _, _ => rfl
  | item :: rest, _, hwellFormed => by
    have hitem := ofDraft?_printedDraft item hwellFormed.1
    have hrest := itemsOfDrafts?_printedItems rest hwellFormed.2
    rw [printedItems, itemsOfDrafts?, hitem, hrest]
    rfl

theorem pairsOfDrafts?_printedMembers : ∀ (members : List (String × Json)) {depth : Nat},
    WellFormedMembers FloatReadsBack depth members →
      pairsOfDrafts? depth (printedMembers members) = some members
  | [], _, _ => rfl
  | (name, value) :: rest, _, hwellFormed => by
    have hvalue := ofDraft?_printedDraft value hwellFormed.1
    have hrest := pairsOfDrafts?_printedMembers rest hwellFormed.2
    rw [printedMembers, pairsOfDrafts?, string?_printedParts, hvalue, hrest]
    rfl

end

/-- **What is printed is read back.**  The text of a value has the value again if its integers fit
    64 bits, its members are in order, it nests no deeper than the reader allows, and each of its
    floating-point numbers is read back. -/
theorem ofText?_render {json : Json} (hwellFormed : json.WellFormed FloatReadsBack depthLimit) :
    ofText? json.render = some json := by
  rw [ofText?, Draft.ofChars?, (spells_render json hwellFormed).ofChars?, Option.bind_some,
    Draft.ofTokens?_tokens, Option.bind_some, ofDraft?_printedDraft json hwellFormed]

/-- The value of the printed text of a value is the value itself. -/
def ReadsBack (json : Json) : Prop :=
  ofBytes? (Text.toBytes json.render) = some json

theorem readsBack_of_wellFormed {json : Json}
    (hwellFormed : json.WellFormed FloatReadsBack depthLimit) : json.ReadsBack := by
  rw [ReadsBack, ofBytes?, Text.ofBytes?_toBytes, Option.bind_some, ofText?_render hwellFormed]

end ResourceFeed.Json
