import SshServer.Proofs.Wire.Grammar

/-!
Contract: what is read of a payload that is cut short.

Owns: the bytes of a single field; that a payload without fields to leave out is refused as
truncated wherever it is cut; that required fields do not depend on what follows them; and, with
these, what every byte string is read as.
Does not own: the grammar, and that readers follow it (`Proofs.Wire.Grammar`).
-/

namespace SshServer.Wire

/-- The bytes of a field are its value whatever follows them, and no fewer of them are. -/
structure Spells (shape : FieldShape) (bytes : List UInt8) (value : FieldValue) : Prop where
  whole : ∀ rest, Finds shape (bytes ++ rest) (.found value rest)
  cut : ∀ front, front <+: bytes → front ≠ bytes → Finds shape front .truncated

theorem length_lt_of_proper {front whole : List UInt8} (isPrefix : front <+: whole)
    (proper : front ≠ whole) : front.length < whole.length :=
  Nat.lt_of_le_of_ne isPrefix.length_le fun same => proper (isPrefix.eq_of_length same)

/-- A field that no peer may leave out takes its own bytes off the front. -/
theorem Finds.exists_spelling {shape : FieldShape} {input rest : List UInt8} {value : FieldValue}
    (finds : Finds shape input (.found value rest)) (required : shape.required = true) :
    ∃ bytes, input = bytes ++ rest ∧ Spells shape bytes value := by
  cases finds with
  | @number front _ _ four worth =>
      refine ⟨front, rfl, fun rest => .number four worth, ?_⟩
      intro part isPrefix proper
      have shorter := length_lt_of_proper isPrefix proper
      exact .numberCut (by omega)
  | @text count _ text four counted =>
      refine ⟨count ++ utf8 text, (List.append_assoc _ _ _).symm, ?_, ?_⟩
      · intro rest
        rw [List.append_assoc]
        exact .text four counted
      · intro part isPrefix proper
        have shorter := length_lt_of_proper isPrefix proper
        by_cases uncounted : part.length < 4
        · exact .textUncounted uncounted
        -- The length is there in full, so what is cut are the bytes that it announces.
        · have counts : count <+: part := List.prefix_of_prefix_length_le
            (List.prefix_append count (utf8 text)) isPrefix (by omega)
          obtain ⟨content, rfl⟩ := counts
          rw [List.length_append, List.length_append] at shorter
          exact .textCut four (by omega)
  | optionalNumber | numberLeftOut | modes | modesCut | modesLeftOut =>
      exact absurd required Bool.false_ne_true

/-- Where no field may be left out, less than the whole is cut short in one of the fields. -/
theorem Parses.truncated_of_cut {fields : List PayloadField} {whole : List UInt8}
    {values : List FieldValue} (parses : Parses fields whole (.ok (values, [])))
    (required : ∀ field ∈ fields, field.shape.required = true) {front : List UInt8}
    (isPrefix : front <+: whole) (proper : front ≠ whole) :
    ∃ field ∈ fields, Parses fields front (.error (.truncated field.name)) := by
  induction fields generalizing whole values front with
  | nil =>
      cases parses
      exact absurd (List.prefix_nil.1 isPrefix) proper
  | cons field fields inductionHypothesis =>
      cases parses with
      | @found _ _ _ rest _ value _ finds later =>
          obtain ⟨bytes, rfl, spells⟩ :=
            finds.exists_spelling (required field List.mem_cons_self)
          have laterRequired : ∀ other ∈ fields, other.shape.required = true :=
            fun other member => required other (List.mem_cons_of_mem _ member)
          by_cases reaches : bytes <+: front
          · obtain ⟨more, rfl⟩ := reaches
            have morePrefix : more <+: rest := (List.prefix_append_right_inj bytes).1 isPrefix
            obtain ⟨other, member, cut⟩ := inductionHypothesis later laterRequired morePrefix
              (fun same => proper (same ▸ rfl))
            exact ⟨other, List.mem_cons_of_mem _ member, .fails (spells.whole more) cut⟩
          · have inside : front <+: bytes := (List.prefix_or_prefix_of_prefix isPrefix
              (List.prefix_append bytes rest)).resolve_right reaches
            have notAll : front ≠ bytes := fun same => reaches (same ▸ List.prefix_rfl)
            exact ⟨field, List.mem_cons_self, .truncated (spells.cut front inside notAll)⟩

/-- Fields that no peer may leave out have the same values in a prefix as in the whole. -/
theorem Parses.take_eq_of_cut {first others : List PayloadField} {whole front : List UInt8}
    {values part : List FieldValue} {rest left : List UInt8}
    (parses : Parses (first ++ others) whole (.ok (values, rest)))
    (parsesFront : Parses (first ++ others) front (.ok (part, left)))
    (required : ∀ field ∈ first, field.shape.required = true) (isPrefix : front <+: whole) :
    part.take first.length = values.take first.length := by
  induction first generalizing whole front values part with
  | nil => rfl
  | cons field first inductionHypothesis =>
      cases parses with
      | @found _ _ _ behind _ value _ finds later =>
          cases parsesFront with
          | @found _ _ _ behindFront _ valueFront _ findsFront laterFront =>
              obtain ⟨bytes, rfl, spells⟩ :=
                findsFront.exists_spelling (required field List.mem_cons_self)
              obtain ⟨tail, rfl⟩ := isPrefix
              rw [List.append_assoc] at finds
              obtain ⟨rfl, rfl⟩ := Finding.found.inj (finds.unique (spells.whole _))
              rw [List.length_cons, List.take_succ_cons, List.take_succ_cons,
                inductionHypothesis later laterFront
                  (fun other member => required other (List.mem_cons_of_mem _ member))
                  (List.prefix_append _ _)]

namespace Kind

/-- The fields that no peer may leave out come first. -/
theorem exists_required (kind : Kind) :
    ∃ first others, kind.fields = first ++ others ∧
      (∀ field ∈ first, field.shape.required = true) ∧
      ∀ value, kind.required value = (kind.values value).take first.length := by
  cases kind with
  | pty =>
      exact ⟨[⟨"term", .text⟩, ⟨"width", .number⟩, ⟨"height", .number⟩], _, rfl, by decide,
        fun _ => rfl⟩
  | windowChange =>
      exact ⟨[⟨"width", .number⟩, ⟨"height", .number⟩], _, rfl, by decide, fun _ => rfl⟩
  | signal | exec | subsystem | env | tunnel | display | forward =>
      exact ⟨_, [], (List.append_nil _).symm, by decide, fun _ => rfl⟩

/-- **Exactly the grammar is read.** A byte string is read as a value, with what is left behind it,
if and only if it is these by the grammar, and it fails to be read as the grammar says: because of
the first field that cannot be read. What is written of a value is read in full. Where no field may
be left out, any less of what is read in full is refused as truncated; and in every payload what can
be read of a prefix at all has the same required fields. -/
theorem decode_follows_grammar (kind : Kind) (input : List UInt8) :
    (∀ value rest, kind.format.decode input = .ok (value, rest) ↔
        Parses kind.fields input (.ok (kind.values value, rest))) ∧
      (∀ failure, kind.format.decode input = .error failure ↔
        Parses kind.fields input (.error failure)) ∧
      (∀ value, kind.Fits value → input = kind.format.write value →
        kind.format.decode input = .ok (kind.received value, [])) ∧
      (∀ value front, kind.strict → kind.format.decode input = .ok (value, []) →
        front <+: input → front ≠ input →
          ∃ field ∈ kind.fields, kind.format.decode front = .error (.truncated field.name)) ∧
      ∀ value other rest left front, kind.format.decode input = .ok (value, rest) →
        front <+: input → kind.format.decode front = .ok (other, left) →
          kind.required other = kind.required value := by
  refine ⟨fun _ _ => decode_ok_iff, fun _ => decode_error_iff, ?_, ?_, ?_⟩
  · rintro value fits rfl
    exact kind.decode_of_fits fits
  · intro value front strict decoded isPrefix proper
    obtain ⟨field, member, cut⟩ :=
      (decode_ok_iff.1 decoded).truncated_of_cut strict isPrefix proper
    exact ⟨field, member, decode_error_iff.2 cut⟩
  · intro value other rest left front decoded isPrefix decodedFront
    obtain ⟨first, others, split, required, values⟩ := kind.exists_required
    have parses := decode_ok_iff.1 decoded
    have parsesFront := decode_ok_iff.1 decodedFront
    rw [split] at parses parsesFront
    rw [values, values]
    exact parses.take_eq_of_cut parsesFront required isPrefix

/-- A variable whose value is cut short, and a terminal whose modes are. -/
theorem decode_follows_grammar_of_cut :
    let whole := EnvRequest.format.write ⟨"A", "bc"⟩
    let screen := PtyRequest.format.write ⟨"vt100", 80, 24, 0, 0, [(53, 1)]⟩
    let seen : PtyRequest := ⟨"vt100", 80, 24, 0, 0, []⟩
    (Kind.env.strict ∧ EnvRequest.format.decode whole = .ok (⟨"A", "bc"⟩, []) ∧
        whole.take 9 <+: whole ∧ whole.take 9 ≠ whole ∧
        ∃ field ∈ Kind.env.fields,
          EnvRequest.format.decode (whole.take 9) = .error (.truncated field.name)) ∧
      PtyRequest.format.decode screen = .ok (⟨"vt100", 80, 24, 0, 0, [(53, 1)]⟩, []) ∧
        screen.take 30 <+: screen ∧
        PtyRequest.format.decode (screen.take 30) = .ok (seen, [53]) ∧
        Kind.pty.required seen = Kind.pty.required ⟨"vt100", 80, 24, 0, 0, [(53, 1)]⟩ := by
  intro whole screen seen
  have strict : Kind.env.strict := by decide
  have read : EnvRequest.format.decode whole = .ok (⟨"A", "bc"⟩, []) :=
    (decode_follows_grammar .env whole).2.2.1 ⟨"A", "bc"⟩ (by constructor <;> decide) rfl
  have cutShort : whole.take 9 <+: whole := List.take_prefix 9 whole
  have proper : whole.take 9 ≠ whole := by decide
  have screenRead : PtyRequest.format.decode screen =
      .ok (⟨"vt100", 80, 24, 0, 0, [(53, 1)]⟩, []) := rfl
  have screenCut : screen.take 30 <+: screen := List.take_prefix 30 screen
  refine ⟨⟨strict, read, cutShort, proper, ?_⟩, screenRead, screenCut, rfl, ?_⟩
  · exact (decode_follows_grammar .env whole).2.2.2.1 _ _ strict read cutShort proper
  · exact (decode_follows_grammar .pty screen).2.2.2.2 _ seen [] [53] _ screenRead screenCut rfl

end Kind

end SshServer.Wire
