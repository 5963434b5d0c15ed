import ReleasePipeline.Proofs.Json.Tokens

/-!
# `ReleasePipeline.Proofs.Json.Values`: a written value is read as what it is

`value_write` says that the parser takes the text of a value for `Json.toReading` of the value, in
either layout, whatever blanks stand before it and whatever stands behind it, as long as that
cannot belong to a number. Its induction is on the value, and goes through the items of arrays and
the members of objects together. `decode_render` is what the rest of the library needs: decoding a
rendered value reads it with the reader of the type, and nothing can go wrong besides.

The fuel of the parser only has to exceed the number of bytes of the text. Every bracket, comma and
colon takes a byte, which pays for the step that reads it.
-/

set_option autoImplicit false

namespace ReleasePipeline.Proofs

open Json (octet isSpace skipSpace isDigit write writeItems writeMembers quoted escape integer
  readItems readMembers)

mutual

/-- Every integer in a value is one that is read as an integer. -/
def InRange : Json → Prop
  | .int value => minInteger ≤ value ∧ value ≤ maxInteger
  | .arr items => ItemsInRange items
  | .obj members => MembersInRange members
  | _ => True

/-- The same for the items of an array. -/
def ItemsInRange : List Json → Prop
  | [] => True
  | item :: rest => InRange item ∧ ItemsInRange rest

/-- The same for the members of an object. -/
def MembersInRange : List (String × Json) → Prop
  | [] => True
  | (_, value) :: rest => InRange value ∧ MembersInRange rest

end

/-! ### Blanks -/

/-- Blanks in front are skipped. -/
theorem skipSpace_append {space : List UInt8} (h : ∀ b ∈ space, isSpace b = true)
    (rest : List UInt8) : skipSpace (space ++ rest) = skipSpace rest :=
  List.dropWhile_append_of_pos h

/-- Nothing is skipped where no blank stands. -/
theorem skipSpace_cons {b : UInt8} (h : isSpace b = false) (rest : List UInt8) :
    skipSpace (b :: rest) = b :: rest := by
  rw [skipSpace, List.dropWhile_cons, h]
  rfl

/-- What separates items is blank. -/
theorem isSpace_of_mem_lineBreak {layout : Layout} {depth : Nat} {b : UInt8}
    (h : b ∈ encode (layout.lineBreak depth)) : isSpace b = true := by
  cases layout with
  | compact => exact absurd h List.not_mem_nil
  | indented =>
      -- An indented line break is the end of a line and then blanks only.
      rcases List.mem_cons.mp h with rfl | h
      · rfl
      · obtain ⟨c, hc, hb⟩ := List.mem_flatMap.mp h
        rw [List.eq_of_mem_replicate hc] at hb
        rw [List.mem_singleton.mp hb]
        rfl

/-- A value may stop in front of a line break and what closes the container. -/
theorem stops_lineBreak (layout : Layout) (depth : Nat) {b : UInt8} {rest : List UInt8}
    (h : Stops (b :: rest)) : Stops (encode (layout.lineBreak depth) ++ b :: rest) := by
  cases layout with
  | compact => exact h
  | indented => exact .inr (.inr (.inr rfl))

/-- A colon is followed by blanks at most. -/
theorem encode_colon (layout : Layout) :
    ∃ space, encode layout.colon = octet ':' :: space ∧ ∀ b ∈ space, isSpace b = true := by
  cases layout with
  | compact => exact ⟨[], rfl, fun b hb => absurd hb List.not_mem_nil⟩
  | indented =>
      refine ⟨[octet ' '], rfl, fun b hb => ?_⟩
      rw [List.mem_singleton.mp hb]
      rfl

/-! ### How values begin -/

/-- The bytes begin with something that is neither blank nor the end of a container. -/
def Begins (bytes : List UInt8) : Prop :=
  ∃ b more, bytes = b :: more ∧ isSpace b = false ∧ b ≠ octet ']' ∧ b ≠ octet '\x7d'

/-- A text of a character and more begins with the byte of the character. -/
theorem begins_cons {c : Char} (hascii : c.toNat < 128) (hspace : isSpace (octet c) = false)
    (hclose : octet c ≠ octet ']' ∧ octet c ≠ octet '\x7d') (rest : List Char) :
    Begins (encode (c :: rest)) :=
  ⟨octet c, encode rest, encode_cons_ascii hascii rest, hspace, hclose.1, hclose.2⟩

/-- A digit is not blank, and ends nothing. -/
theorem isDigit_facts {b : UInt8} (h : isDigit b = true) :
    isSpace b = false ∧ b ≠ octet ']' ∧ b ≠ octet '\x7d' := by
  refine ⟨?_, ?_, ?_⟩
  · rw [← Bool.not_eq_true]
    intro hspace
    simp only [isSpace, Bool.or_eq_true, beq_iff_eq] at hspace
    rcases hspace with ((rfl | rfl) | rfl) | rfl <;> exact absurd h (by decide)
  · rintro rfl
    exact absurd h (by decide)
  · rintro rfl
    exact absurd h (by decide)

/-- The digits of a number begin with a digit. -/
theorem encode_digits_cons (n : Nat) :
    ∃ b more, encode (Text.digits n) = b :: more ∧ isDigit b = true := by
  cases hdigits : Text.digits n with
  | nil => exact absurd hdigits (digits_ne_nil n)
  | cons first rest =>
      have hfirst : first.isDigit = true := isDigit_of_mem_digits (hdigits ▸ List.mem_cons_self)
      refine ⟨octet first, rest.map octet, ?_, isDigit_octet hfirst⟩
      rw [← hdigits, encode_digits, hdigits]
      rfl

/-- The text of a value begins with something that is neither blank nor the end of a container. -/
theorem begins_write (layout : Layout) (depth : Nat) (json : Json) :
    Begins (encode (write layout depth json)) := by
  cases json with
  | null => exact begins_cons (by decide) rfl (by decide) _
  | bool value => cases value <;> exact begins_cons (by decide) rfl (by decide) _
  | int value =>
      -- A number begins with its sign or with its first digit.
      by_cases hneg : value < 0
      · rw [write, integer, if_pos hneg]
        exact begins_cons (by decide) rfl (by decide) _
      · obtain ⟨b, more, hbytes, hdigit⟩ := encode_digits_cons value.natAbs
        rw [write, integer, if_neg hneg]
        exact ⟨b, more, hbytes, isDigit_facts hdigit⟩
  | str text => exact begins_cons (by decide) rfl (by decide) _
  | arr items => cases items <;> exact begins_cons (by decide) rfl (by decide) _
  | obj members =>
      cases members with
      | nil => exact begins_cons (by decide) rfl (by decide) _
      | cons member rest => exact begins_cons (by decide) rfl (by decide) _

/-! ### Values without parts -/

section
variable {space rest : List UInt8} (hspace : ∀ b ∈ space, isSpace b = true)
include hspace

/-- Blanks in front of a value do not matter. -/
theorem value_skip (fuel : Nat) {bytes : List UInt8} :
    Json.value fuel (space ++ bytes) = Json.value fuel bytes := by
  cases fuel with
  | zero => rfl
  | succ fuel => rw [Json.value, Json.value, skipSpace_append hspace]

end

/-- A quote begins a string. -/
theorem value_quote (fuel : Nat) (bytes : List UInt8) :
    Json.value (fuel + 1) (octet '"' :: bytes) = Json.stringValue bytes := by
  rw [Json.value, skipSpace_cons (by decide)]
  exact if_pos rfl

/-- A minus sign begins a number. -/
theorem value_minus (fuel : Nat) (bytes : List UInt8) :
    Json.value (fuel + 1) (octet '-' :: bytes) = Json.unsignedNumber true bytes := by
  rw [Json.value, skipSpace_cons (by decide)]
  rfl

/-- A digit begins a number as well. -/
theorem value_digit {b : UInt8} (h : isDigit b = true) (fuel : Nat) (rest : List UInt8) :
    Json.value (fuel + 1) (b :: rest) = Json.unsignedNumber false (b :: rest) := by
  -- None of the bytes that are tried before a digit is one.
  have hne : ∀ c ∈ ['"', '[', '\x7b', 'n', 't', 'f', '-'], b ≠ octet c := by
    have hall :
        ['"', '[', '\x7b', 'n', 't', 'f', '-'].all (fun c => !isDigit (octet c)) = true := by
      decide
    rintro c hc rfl
    have hc := List.all_eq_true.mp hall c hc
    rw [h] at hc
    cases hc
  rw [Json.value, skipSpace_cons (isDigit_facts h).1]
  simp only [if_neg (hne '"' (by decide)), if_neg (hne '[' (by decide)),
    if_neg (hne '\x7b' (by decide)), if_neg (hne 'n' (by decide)), if_neg (hne 't' (by decide)),
    if_neg (hne 'f' (by decide)), if_neg (hne '-' (by decide)), h, if_true]

/-- The text of an integer is read as the integer. -/
theorem value_integer {n : Int} (h : minInteger ≤ n ∧ n ≤ maxInteger) (fuel : Nat)
    {rest : List UInt8} (hrest : Stops rest) :
    Json.value (fuel + 1) (encode (integer n) ++ rest) = ⟨.int n, .ok rest⟩ := by
  unfold minInteger maxInteger at h
  by_cases hneg : n < 0
  · -- The sign is read first, and then the digits behind it.
    have habs : -(n.natAbs : Int) = n := by omega
    have hvalue := @integerValue_neg_digits n.natAbs (by omega) (by omega)
    rw [integer, if_pos hneg, encode_cons_ascii (by decide), List.cons_append, value_minus,
      unsignedNumber_digits true _ hrest, hvalue, habs]
  · have habs : (n.natAbs : Int) = n := by omega
    have hvalue := @integerValue_digits n.natAbs (by unfold Json.maxWord; omega)
    obtain ⟨b, more, hbytes, hdigit⟩ := encode_digits_cons n.natAbs
    have hnumber := unsignedNumber_digits false n.natAbs hrest
    rw [hvalue, habs, hbytes, List.cons_append] at hnumber
    rw [integer, if_neg hneg, hbytes, List.cons_append, value_digit hdigit, hnumber]

/-- A name between quotes is read as the name of a member. -/
theorem memberName_quoted (name : String) (rest : List UInt8) :
    Json.memberName (encode (quoted name) ++ rest) = ⟨.ok name, .ok rest⟩ := by
  show (let scan := Json.stringPieces (encode (name.toList.flatMap escape ++ ['"']) ++ rest)
    (⟨Json.pieceText scan, scan.rest⟩ : Json.Name)) = _
  simp only [stringPieces_quoted, pieceText_written]

/-! ### Containers -/

/-- The bytes of an item behind its comma. -/
theorem encode_writeItems_cons (layout : Layout) (depth : Nat) (item : Json) (more : List Json) :
    encode (writeItems layout depth (item :: more)) = octet ',' ::
      (encode (layout.lineBreak depth) ++ (encode (write layout depth item) ++
        encode (writeItems layout depth more))) := by
  rw [writeItems, encode_cons, encode_append, encode_append]
  rfl

/-- The bytes of a member behind its comma. -/
theorem encode_writeMembers_cons (layout : Layout) (depth : Nat) (name : String) (value : Json)
    (more : List (String × Json)) :
    encode (writeMembers layout depth ((name, value) :: more)) = octet ',' ::
      (encode (layout.lineBreak depth) ++ (encode (quoted name) ++ (encode layout.colon ++
        (encode (write layout depth value) ++ encode (writeMembers layout depth more))))) := by
  rw [writeMembers, encode_cons, encode_append, encode_append, encode_append, encode_append]
  rfl

/-- The bytes of an array: its items, the first one without a comma. -/
theorem encode_write_arr (layout : Layout) (depth : Nat) (item : Json) (more : List Json) :
    encode (write layout depth (.arr (item :: more))) = octet '[' ::
      ((encode (writeItems layout (depth + 1) (item :: more))).tail ++
        (encode (layout.lineBreak depth) ++ [octet ']'])) := by
  rw [write, encode_writeItems_cons, encode_cons, encode_append, encode_append, encode_append,
    encode_append]
  simp only [List.tail_cons, List.append_assoc]
  rfl

/-- The bytes of an object: its members, the first one without a comma. -/
theorem encode_write_obj (layout : Layout) (depth : Nat) (name : String) (value : Json)
    (more : List (String × Json)) :
    encode (write layout depth (.obj ((name, value) :: more))) = octet '\x7b' ::
      ((encode (writeMembers layout (depth + 1) ((name, value) :: more))).tail ++
        (encode (layout.lineBreak depth) ++ [octet '\x7d'])) := by
  rw [write, encode_writeMembers_cons, encode_cons, encode_append, encode_append, encode_append,
    encode_append, encode_append, encode_append]
  simp only [List.tail_cons, List.append_assoc]
  rfl

/-- The bytes behind an item or a member: those of the next ones, or of the end. -/
theorem stops_writeItems (layout : Layout) (depth outer : Nat) (more : List Json)
    (rest : List UInt8) :
    Stops (encode (writeItems layout depth more) ++
      (encode (layout.lineBreak outer) ++ octet ']' :: rest)) := by
  cases more with
  | nil => exact stops_lineBreak layout outer (.inr (.inl rfl))
  | cons item more =>
      rw [encode_writeItems_cons]
      exact .inl rfl

/-- The same behind a member. -/
theorem stops_writeMembers (layout : Layout) (depth outer : Nat) (more : List (String × Json))
    (rest : List UInt8) :
    Stops (encode (writeMembers layout depth more) ++
      (encode (layout.lineBreak outer) ++ octet '\x7d' :: rest)) := by
  cases more with
  | nil => exact stops_lineBreak layout outer (.inr (.inr (.inl rfl)))
  | cons member more =>
      rw [encode_writeMembers_cons]
      exact .inl rfl

/-- An item is the last one where the bracket closes behind it. -/
theorem items_last {fuel : Nat} {bytes after rest : List UInt8} {reading : Reading}
    (h : Json.value fuel bytes = ⟨reading, .ok after⟩)
    (hclose : skipSpace after = octet ']' :: rest) :
    Json.items (fuel + 1) bytes = ⟨[reading], .ok rest⟩ := by
  rw [Json.items, h]
  simp only [hclose]
  rfl

/-- Behind a comma the other items are read. -/
theorem items_more {fuel : Nat} {bytes after rest : List UInt8} {reading : Reading}
    (h : Json.value fuel bytes = ⟨reading, .ok after⟩)
    (hcomma : skipSpace after = octet ',' :: rest) :
    Json.items (fuel + 1) bytes = (Json.items fuel rest).cons reading := by
  rw [Json.items, h]
  simp only [hcomma]
  rfl

/-- A member begins with its name and a colon. -/
theorem members_name {layout : Layout} (fuel : Nat) (name : String) {space bytes : List UInt8}
    (hspace : ∀ b ∈ space, isSpace b = true) :
    ∃ blanks, (∀ b ∈ blanks, isSpace b = true) ∧
      Json.members (fuel + 1) (space ++ (encode (quoted name) ++ (encode layout.colon ++ bytes))) =
        let value := Json.value fuel (blanks ++ bytes)
        match value.rest with
        | .error fault => ⟨[(some name, value.found)], .error fault⟩
        | .ok rest =>
          match skipSpace rest with
          | [] => ⟨[(some name, value.found)], .error .endsEarly⟩
          | b :: after =>
            if b = octet '\x7d' then ⟨[(some name, value.found)], .ok after⟩
            else if b = octet ',' then (Json.members fuel after).cons (some name, value.found)
            else ⟨[(some name, value.found)], .error .notJson⟩ := by
  obtain ⟨blanks, hcolon, hblanks⟩ := encode_colon layout
  refine ⟨blanks, hblanks, ?_⟩
  -- No blank is skipped in front of the quote or the colon, since neither is one.
  have hquote : skipSpace (space ++ (encode (quoted name) ++ (encode layout.colon ++ bytes))) =
      encode (quoted name) ++ (encode layout.colon ++ bytes) := by
    rw [skipSpace_append hspace]
    exact skipSpace_cons rfl _
  have hskip : skipSpace (octet ':' :: (blanks ++ bytes)) = octet ':' :: (blanks ++ bytes) :=
    skipSpace_cons rfl _
  rw [Json.members, hquote, memberName_quoted, hcolon]
  simp only [List.cons_append, hskip]
  rfl

/-- A member is the last one where the brace closes behind it. -/
theorem members_last {layout : Layout} {fuel : Nat} {name : String}
    {space bytes after rest : List UInt8} {reading : Reading}
    (hspace : ∀ b ∈ space, isSpace b = true) (h : Json.value fuel bytes = ⟨reading, .ok after⟩)
    (hclose : skipSpace after = octet '\x7d' :: rest) :
    Json.members (fuel + 1) (space ++ (encode (quoted name) ++ (encode layout.colon ++ bytes))) =
      ⟨[(some name, reading)], .ok rest⟩ := by
  obtain ⟨blanks, hblanks, hmember⟩ := @members_name layout fuel name space bytes hspace
  rw [hmember, value_skip hblanks, h]
  simp only [hclose]
  rfl

/-- Behind a comma the other members are read. -/
theorem members_more {layout : Layout} {fuel : Nat} {name : String}
    {space bytes after rest : List UInt8} {reading : Reading}
    (hspace : ∀ b ∈ space, isSpace b = true) (h : Json.value fuel bytes = ⟨reading, .ok after⟩)
    (hcomma : skipSpace after = octet ',' :: rest) :
    Json.members (fuel + 1) (space ++ (encode (quoted name) ++ (encode layout.colon ++ bytes))) =
      (Json.members fuel rest).cons (some name, reading) := by
  obtain ⟨blanks, hblanks, hmember⟩ := @members_name layout fuel name space bytes hspace
  rw [hmember, value_skip hblanks, h]
  simp only [hcomma]
  rfl

/-- A bracket with an item behind it opens an array. -/
theorem value_arr {fuel : Nat} {bytes rest : List UInt8} {readings : List Reading}
    {space : List UInt8} (hspace : ∀ b ∈ space, isSpace b = true) (hbegins : Begins bytes)
    (h : Json.items fuel (space ++ bytes) = ⟨readings, .ok rest⟩) :
    Json.value (fuel + 1) (octet '[' :: (space ++ bytes)) = ⟨.list readings none, .ok rest⟩ := by
  obtain ⟨b, more, rfl, hblank, hbracket, -⟩ := hbegins
  -- The first item is no closing bracket, so the array is not taken for an empty one.
  have hskip : skipSpace (space ++ b :: more) = b :: more := by
    rw [skipSpace_append hspace, skipSpace_cons hblank]
  rw [Json.value, skipSpace_cons (by decide)]
  simp only [hskip, if_neg hbracket, h]
  rfl

/-- A brace with a member behind it opens an object. -/
theorem value_obj {fuel : Nat} {name : String} {bytes rest : List UInt8}
    {readings : List (Option String × Reading)} {space : List UInt8}
    (hspace : ∀ b ∈ space, isSpace b = true)
    (h : Json.members fuel (space ++ (encode (quoted name) ++ bytes)) = ⟨readings, .ok rest⟩) :
    Json.value (fuel + 1) (octet '\x7b' :: (space ++ (encode (quoted name) ++ bytes))) =
      ⟨.object readings none, .ok rest⟩ := by
  have hskip : skipSpace (space ++ (encode (quoted name) ++ bytes)) =
      encode (quoted name) ++ bytes := by
    rw [skipSpace_append hspace]
    exact skipSpace_cons rfl _
  rw [Json.value, skipSpace_cons (by decide)]
  simp only [hskip, h]
  rfl

mutual

/-- A written value is read as what it is. -/
theorem value_write (layout : Layout) (depth : Nat) : ∀ (json : Json), InRange json →
    ∀ (fuel : Nat) (rest : List UInt8), (encode (write layout depth json)).length < fuel →
      Stops rest → Json.value fuel (encode (write layout depth json) ++ rest) =
        ⟨json.toReading, .ok rest⟩
  | json, hrange, 0, rest, hfuel, _ => absurd hfuel (Nat.not_lt_zero _)
  | .null, _, fuel + 1, rest, _, _ => rfl
  | .bool true, _, fuel + 1, rest, _, _ => rfl
  | .bool false, _, fuel + 1, rest, _, _ => rfl
  | .int n, hrange, fuel + 1, rest, _, hrest => by
      rw [write]
      exact value_integer hrange fuel hrest
  | .str text, _, fuel + 1, rest, _, _ => by
      rw [write, quoted, encode_cons_ascii (by decide), List.cons_append, value_quote,
        stringValue_written]
      rfl
  | .arr [], _, fuel + 1, rest, _, _ => rfl
  | .arr (item :: more), hrange, fuel + 1, rest, hfuel, hrest => by
      rw [encode_write_arr, encode_writeItems_cons] at hfuel ⊢
      -- The opening bracket takes a byte, so the fuel that is left is enough for the items.
      have hitems := items_write layout (depth + 1) depth (item :: more) (List.cons_ne_nil _ _)
        hrange fuel rest (by
          rw [encode_writeItems_cons]
          simp only [List.length_cons, List.length_append, List.tail_cons] at hfuel ⊢
          omega)
      rw [encode_writeItems_cons] at hitems
      simp only [List.tail_cons, List.cons_append, List.append_assoc, List.nil_append] at hitems ⊢
      refine value_arr (fun b => isSpace_of_mem_lineBreak) ?_ hitems
      obtain ⟨b, others, hbytes, hblank, hclose⟩ := begins_write layout (depth + 1) item
      exact ⟨b, others ++ _, by rw [hbytes, List.cons_append], hblank, hclose⟩
  | .obj [], _, fuel + 1, rest, _, _ => rfl
  | .obj ((name, value) :: more), hrange, fuel + 1, rest, hfuel, hrest => by
      rw [encode_write_obj, encode_writeMembers_cons] at hfuel ⊢
      -- Here it is the opening brace.
      have hmembers := members_write layout (depth + 1) depth ((name, value) :: more)
        (List.cons_ne_nil _ _) hrange fuel rest (by
          rw [encode_writeMembers_cons]
          simp only [List.length_cons, List.length_append, List.tail_cons] at hfuel ⊢
          omega)
      rw [encode_writeMembers_cons] at hmembers
      simp only [List.tail_cons, List.cons_append, List.append_assoc, List.nil_append]
        at hmembers ⊢
      exact value_obj (fun b => isSpace_of_mem_lineBreak) hmembers

/-- The items of an array are read up to its closing bracket. -/
theorem items_write (layout : Layout) (depth outer : Nat) : ∀ (list : List Json), list ≠ [] →
    ItemsInRange list → ∀ (fuel : Nat) (rest : List UInt8),
      (encode (writeItems layout depth list)).length < fuel →
        Json.items fuel ((encode (writeItems layout depth list)).tail ++
          (encode (layout.lineBreak outer) ++ octet ']' :: rest)) = ⟨readItems list, .ok rest⟩
  | [], hlist, _, _, _, _ => absurd rfl hlist
  | item :: more, _, hrange, 0, rest, hfuel => absurd hfuel (Nat.not_lt_zero _)
  | item :: more, _, hrange, fuel + 1, rest, hfuel => by
      rw [encode_writeItems_cons] at hfuel ⊢
      simp only [List.length_cons, List.length_append] at hfuel
      have hspace : ∀ b ∈ encode (layout.lineBreak depth), isSpace b = true :=
        fun b => isSpace_of_mem_lineBreak
      -- The comma in front of the item takes the byte that this step costs.
      have hitem := value_write layout depth item hrange.1 fuel
        (encode (writeItems layout depth more) ++
          (encode (layout.lineBreak outer) ++ octet ']' :: rest))
        (by omega) (stops_writeItems layout depth outer more rest)
      rw [← value_skip hspace] at hitem
      simp only [List.tail_cons, List.append_assoc]
      -- What stands behind the item says whether it is the last one.
      cases more with
      | nil =>
          refine items_last hitem ?_
          show skipSpace (encode (layout.lineBreak outer) ++ octet ']' :: rest) = _
          rw [skipSpace_append fun b => isSpace_of_mem_lineBreak]
          exact skipSpace_cons rfl rest
      | cons next others =>
          have hmore := items_write layout depth outer (next :: others) (List.cons_ne_nil _ _)
            hrange.2 fuel rest (by omega)
          rw [encode_writeItems_cons, List.tail_cons] at hmore
          rw [encode_writeItems_cons] at hitem ⊢
          exact (items_more hitem (skipSpace_cons rfl _)).trans
            (congrArg (Scan.cons item.toReading) hmore)

/-- The members of an object are read up to its closing brace. -/
theorem members_write (layout : Layout) (depth outer : Nat) : ∀ (list : List (String × Json)),
    list ≠ [] → MembersInRange list → ∀ (fuel : Nat) (rest : List UInt8),
      (encode (writeMembers layout depth list)).length < fuel →
        Json.members fuel ((encode (writeMembers layout depth list)).tail ++
          (encode (layout.lineBreak outer) ++ octet '\x7d' :: rest)) =
            ⟨readMembers list, .ok rest⟩
  | [], hlist, _, _, _, _ => absurd rfl hlist
  | (name, value) :: more, _, hrange, 0, rest, hfuel => absurd hfuel (Nat.not_lt_zero _)
  | (name, value) :: more, _, hrange, fuel + 1, rest, hfuel => by
      rw [encode_writeMembers_cons] at hfuel ⊢
      simp only [List.length_cons, List.length_append] at hfuel
      have hspace : ∀ b ∈ encode (layout.lineBreak depth), isSpace b = true :=
        fun b => isSpace_of_mem_lineBreak
      have hvalue := value_write layout depth value hrange.1 fuel
        (encode (writeMembers layout depth more) ++
          (encode (layout.lineBreak outer) ++ octet '\x7d' :: rest))
        (by omega) (stops_writeMembers layout depth outer more rest)
      simp only [List.tail_cons, List.append_assoc]
      -- As with items, what stands behind the member says whether it is the last one.
      cases more with
      | nil =>
          refine members_last hspace hvalue ?_
          show skipSpace (encode (layout.lineBreak outer) ++ octet '\x7d' :: rest) = _
          rw [skipSpace_append fun b => isSpace_of_mem_lineBreak]
          exact skipSpace_cons rfl rest
      | cons next others =>
          obtain ⟨other, last⟩ := next
          have hmore := members_write layout depth outer ((other, last) :: others)
            (List.cons_ne_nil _ _) hrange.2 fuel rest (by omega)
          rw [encode_writeMembers_cons, List.tail_cons] at hmore
          rw [encode_writeMembers_cons] at hvalue ⊢
          exact (members_more hspace hvalue (skipSpace_cons rfl _)).trans
            (congrArg (Scan.cons (some name, value.toReading)) hmore)

end

/-! ### Whole texts -/

/-- A written value is read as what it is, and nothing is left. -/
theorem scan_write (layout : Layout) {json : Json} (hrange : InRange json) :
    Json.scan (encode (write layout 0 json)) = ⟨json.toReading, .ok []⟩ := by
  have hvalue := value_write layout 0 json hrange _ [] (Nat.lt_succ_self _) trivial
  rwa [List.append_nil] at hvalue

/-- A rendered value is decoded as what it is: the reader of the type has the last word. -/
theorem decode_render {α : Type} (read : Reading → Except Fault α) (layout : Layout) {json : Json}
    (hrange : InRange json) :
    Json.decode read (json.render layout).toUTF8.data.toList = read json.toReading := by
  rw [Json.render, toUTF8_ofList]
  unfold Json.decode
  simp only [scan_write layout hrange]
  cases read json.toReading with
  | error fault => rfl
  | ok result => rfl

end ReleasePipeline.Proofs
