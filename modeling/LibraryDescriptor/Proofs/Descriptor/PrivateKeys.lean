import LibraryDescriptor.Proofs.Descriptor.ReferenceNames

/-!
# Private keys of different modules

The key of a private symbol is put together from the prefix of its module, an underscore and its
name. As an underscore may also stand inside prefixes and names, the parts cannot always be told
from the key: a module may have, by its name, a symbol of the module whose prefix is longer.

* `Options.Continues` — a name holds the rest of a longer prefix.
* `Options.privateKey_eq_iff` — when two private keys are the same.
* `Options.Opens` — one prefix is the other, an underscore and the start of a name.
* `parse_variableLayout`, `compile_variable` — a module with one symbol of any name.
* `private_keys_disjoint_iff` — for which prefixes the private keys of modules never meet.
-/

namespace LibraryDescriptor

/-! ## Keys with different prefixes -/

def Options.privateKey (options : Options) (name : Text) : Text := (options.names name none).key

/-- Two texts with an underscore in them are the same exactly if one of them goes on with the other
behind its own underscore. -/
theorem join_underscore_eq_iff {p q n m : Text} (different : p ≠ q) :
    Text.join [p, "_", n] = Text.join [q, "_", m] ↔
      (∃ rest, q = .join [p, "_", rest] ∧ n = .join [rest, "_", m]) ∨
        ∃ rest, p = .join [q, "_", rest] ∧ m = .join [rest, "_", n] := by
  have under : Text.ofString "_" = [.scalar '_'] := rfl
  simp only [Text.join, List.flatten_cons, List.flatten_nil, List.append_nil, under,
    List.singleton_append]
  constructor
  · intro same
    rcases List.append_eq_append_iff.mp same with ⟨between, rfl, behind⟩ | ⟨between, rfl, behind⟩
    -- The text between the ends of the prefixes starts with the underscore of the shorter one.
    · cases between with
      | nil => exact absurd (List.append_nil p).symm different
      | cons c rest =>
        rw [List.cons_append, List.cons.injEq] at behind
        exact .inl ⟨rest, by rw [behind.1], behind.2⟩
    · cases between with
      | nil => exact absurd (List.append_nil q) different
      | cons c rest =>
        rw [List.cons_append, List.cons.injEq] at behind
        exact .inr ⟨rest, by rw [behind.1], behind.2⟩
  · rintro (⟨rest, rfl, rfl⟩ | ⟨rest, rfl, rfl⟩) <;> simp

/-- One prefix is the other, an underscore and a rest, and a name is that rest, an underscore and
another name. -/
def Options.Continues (shorter longer : Options) (name other : Text) : Prop :=
  ∃ rest, longer.localPrefix = .join [shorter.localPrefix, "_", rest] ∧
    name = .join [rest, "_", other]

theorem Options.privateKey_eq_iff {first second : Options} (style : first.style = second.style)
    (different : first.localPrefix ≠ second.localPrefix) {name other : Text} :
    first.privateKey name = second.privateKey other ↔
      first.Continues second name other ∨ second.Continues first other name := by
  unfold Continues
  rw [← join_underscore_eq_iff different]
  unfold privateKey names
  -- What stands in front of the prefix depends on the style only.
  rw [style]
  cases second.style with
  | uniform => simp [Text.join]
  | emscripten => simp [Text.join]

/-- One prefix is the other, an underscore and a rest that can start a name. -/
def Options.Opens (shorter longer : Options) : Prop :=
  ∃ rest, longer.localPrefix = .join [shorter.localPrefix, "_", rest] ∧
    (rest = [] ∨ isPlainIdentifier rest = true)

/-! ## Names behind a prefix -/

theorem isPlainStart_of_isWordStart {c : Char} (plain : isPlainPart c = true)
    (start : isWordStart c = true) : isPlainStart c = true := by
  have known := (isWord_parts_of_lt c.toNat (toNat_lt_of_isPlainPart plain)).2.2
  rw [Char.ofNat_toNat] at known
  exact known plain start

theorem all_of_isPlainIdentifier {t : Text} (plain : isPlainIdentifier t = true) :
    ∀ p ∈ t, p.has isPlainPart = true := by
  cases t with
  | nil => cases plain
  | cons p rest =>
    simp only [isPlainIdentifier, Bool.and_eq_true, List.all_eq_true] at plain
    refine List.forall_mem_cons.mpr ⟨CodePoint.has_mono (fun start => ?_) plain.1, plain.2⟩
    rw [isPlainPart, start, Bool.true_or]

/-- The end of a prefix that starts a word is empty or a plain identifier. -/
theorem isPlainIdentifier_of_isWord {front rest behind : Text}
    (plain : isPlainIdentifier (front ++ rest) = true)
    (word : Text.isWord (rest ++ behind) = true) :
    rest = [] ∨ isPlainIdentifier rest = true := by
  have parts := all_of_isPlainIdentifier plain
  cases rest with
  | nil => exact .inl rfl
  | cons p more =>
    right
    obtain ⟨first, others⟩ := List.forall_mem_cons.mp (List.forall_mem_append.mp parts).2
    simp only [List.cons_append, Text.isWord, Bool.and_eq_true] at word
    simp only [isPlainIdentifier, Bool.and_eq_true, List.all_eq_true]
    refine ⟨?_, others⟩
    cases p with
    | scalar c => exact isPlainStart_of_isWordStart first word.1
    | surrogate offset => cases first

/-- A prefix whose rest starts a word opens the longer one. -/
theorem Options.Continues.opens {shorter longer : Options} {name other : Text}
    (continues : shorter.Continues longer name other) (word : name.isWord = true) :
    shorter.Opens longer := by
  obtain ⟨rest, longer_eq, rfl⟩ := continues
  refine ⟨rest, longer_eq, ?_⟩
  have plain := longer.isPlainIdentifier_localPrefix
  rw [longer_eq] at plain
  simp only [Text.join, List.flatten_cons, List.flatten_nil, List.append_nil] at plain word
  rw [← List.append_assoc] at plain
  exact isPlainIdentifier_of_isWord plain word

/-! ## A module with one symbol -/

/-- The text `var name;`. -/
def variableLayout (name : Text) : Layout :=
  [.lexeme (.keyword .var), .space, .lexeme (.identifier name), .lexeme (.punctuator .semicolon)]

/-- The module that it spells. -/
def variableModule (name : Text) : Program Text :=
  ⟨[.declaration (.variables .var [.mk name none])]⟩

theorem parse_variableLayout {name : Text} (isName : name.IsName) :
    parse (variableLayout name).text = .ok (variableModule name) := by
  have separated : (variableLayout name).Separated [] :=
    ⟨trivial, Lexeme.ends_blank _ (.inl rfl) _, isName.word,
      show isIdentifierPart ';' = false by decide, trivial, ⟨fun _ _ => rfl, fun _ => rfl⟩, trivial⟩
  rw [parse, separated.scan]
  change Grammar.module _ = _
  rw [variableLayout, Layout.tokens, Layout.tokens, Layout.tokens, Lexeme.read_identifier isName]
  rfl

theorem compile_variable [Serializer] (options : Options) (name : Text) :
    ∃ compiled, compile options (variableModule name) = .ok compiled ∧
      compiled.table.symbols = [⟨name, options.privateKey name,
        (options.names name none).reference, .internal, .value⟩] :=
  ⟨_, rfl, rfl⟩

/-! ## Compiled modules -/

/-- A private symbol of the descriptor of a text. -/
def Options.HasPrivate [Serializer] (options : Options) (source : Text) (s : ResolvedSymbol) : Prop :=
  ∃ program compiled, parse source = .ok program ∧ compile options program = .ok compiled ∧
    s ∈ compiled.table.symbols ∧ s.visibility = .internal

theorem Options.HasPrivate.key_eq [Serializer] {options : Options} {source : Text}
    {s : ResolvedSymbol}
    (has : options.HasPrivate source s) :
    s.key = options.privateKey s.name ∧ s.name.isWord = true := by
  obtain ⟨program, compiled, parsed, success, member, isPrivate⟩ := has
  obtain ⟨items, -⟩ := parse_sound parsed
  obtain ⟨exports, valid, -, success, -⟩ := compile_eq_ok success
  have resolved := ScopeAnalysis.resolve_resolved success
  have declared : s.name ∈ program.label.withoutExports.names :=
    resolved.names_eq ▸ List.mem_map_of_mem member
  refine ⟨?_, Program.isWord_topLevelName items
    (Program.mem_topLevelNames (Program.declaresOnly_of_validate valid) declared)⟩
  rw [resolved.symbols] at member
  obtain ⟨symbol, -, rfl⟩ := List.mem_map.mp member
  cases found : exports.exported? symbol.name with
  | none => simp [ModuleSymbol.resolved, found, privateKey]
  | some exported => simp [ModuleSymbol.resolved, found] at isPrivate

theorem Options.hasPrivate_variable [Serializer] (options : Options) {name : Text}
    (isName : name.IsName) :
    ∃ s, options.HasPrivate (variableLayout name).text s ∧ s.key = options.privateKey name := by
  obtain ⟨compiled, success, symbols⟩ := compile_variable options name
  exact ⟨_, ⟨_, compiled, parse_variableLayout isName, success,
    symbols ▸ List.mem_singleton_self _, rfl⟩, rfl⟩

/-- Words with an underscore between them are a name. -/
theorem Text.isName_join {first second : Text}
    (word : isWord (join [first, "_", second]) = true) : IsName (join [first, "_", second]) := by
  refine ⟨word, Keyword.ofText?_eq_none ?_⟩
  exact List.mem_flatten.mpr ⟨ofString "_", by simp, List.mem_cons_self⟩

/-- Where one prefix opens the other, two modules have a private key in common. -/
theorem Options.Opens.exists_common [Serializer] {shorter longer : Options}
    (opens : shorter.Opens longer)
    (style : shorter.style = longer.style) (different : shorter.localPrefix ≠ longer.localPrefix) :
    ∃ source other s t, shorter.HasPrivate source s ∧ longer.HasPrivate other t ∧
      s.key = t.key := by
  obtain ⟨rest, longer_eq, starts⟩ := opens
  have word : Text.isWord (.join [rest, "_", "x"]) = true := by
    rcases starts with rfl | plain
    · decide
    · refine Text.isWord_join (Text.isWord_of_isPlainIdentifier plain) ?_
      simp only [List.forall_mem_cons]
      exact ⟨by decide, by decide, nofun⟩
  obtain ⟨s, has_s, s_key⟩ := shorter.hasPrivate_variable (Text.isName_join word)
  obtain ⟨t, has_t, t_key⟩ := longer.hasPrivate_variable
    (show Text.IsName "x" from ⟨by decide, by decide⟩)
  refine ⟨_, _, s, t, has_s, has_t, ?_⟩
  rw [s_key, t_key, privateKey_eq_iff style different]
  exact .inl ⟨rest, longer_eq, rfl⟩

/-- In one style, two private symbols of modules with different prefixes have the same key exactly
if one prefix is the other, an underscore and a rest, and the rest, an underscore and the name of
the one symbol are the name of the other. So the private keys of all modules with two prefixes are
apart exactly if neither prefix opens the other. -/
theorem private_keys_disjoint_iff [Serializer] {first second : Options}
    (style : first.style = second.style)
    (different : first.localPrefix ≠ second.localPrefix) :
    (∀ source other s t, first.HasPrivate source s → second.HasPrivate other t →
      (s.key = t.key ↔
        first.Continues second s.name t.name ∨ second.Continues first t.name s.name)) ∧
    ((∀ source other s t, first.HasPrivate source s → second.HasPrivate other t → s.key ≠ t.key) ↔
      ¬ first.Opens second ∧ ¬ second.Opens first) := by
  have same_key_iff {source other : Text} {s t : ResolvedSymbol} (has_s : first.HasPrivate source s)
      (has_t : second.HasPrivate other t) : s.key = t.key ↔
        first.Continues second s.name t.name ∨ second.Continues first t.name s.name := by
    rw [has_s.key_eq.1, has_t.key_eq.1]
    exact Options.privateKey_eq_iff style different
  refine ⟨fun _ _ _ _ has_s has_t => same_key_iff has_s has_t,
    fun apart => ⟨fun opens => ?_, fun opens => ?_⟩, fun ⟨unopened, unopened'⟩ => ?_⟩
  · obtain ⟨_, _, s, t, has_s, has_t, same⟩ := opens.exists_common style different
    exact apart _ _ s t has_s has_t same
  · obtain ⟨_, _, s, t, has_s, has_t, same⟩ := opens.exists_common style.symm different.symm
    exact apart _ _ t s has_t has_s same.symm
  · intro source other s t has_s has_t same
    rcases (same_key_iff has_s has_t).mp same with continues | continues
    · exact unopened (continues.opens has_s.key_eq.2)
    · exact unopened' (continues.opens has_t.key_eq.2)

/-- The options of two versions of a module. -/
def firstVersion : Options := { localPrefix := "lib" }

def secondVersion : Options := { localPrefix := "lib_2" }

/-- No name starts with a digit, so the private keys of the two versions are apart. -/
theorem versions_private_keys_disjoint :
    firstVersion.style = secondVersion.style ∧
      firstVersion.localPrefix ≠ secondVersion.localPrefix ∧
      ∀ source other s t, firstVersion.HasPrivate source s → secondVersion.HasPrivate other t →
        s.key ≠ t.key := by
  have style : firstVersion.style = secondVersion.style := rfl
  have different : firstVersion.localPrefix ≠ secondVersion.localPrefix := by decide
  refine ⟨style, different, (private_keys_disjoint_iff style different).2.mpr ⟨?_, ?_⟩⟩
  · rintro ⟨rest, longer, starts⟩
    have number : Text.ofString "lib_" ++ Text.ofString "2" = Text.ofString "lib_" ++ rest :=
      longer.trans (by simp [firstVersion, Text.join, Text.ofString])
    obtain rfl := List.append_cancel_left number
    revert starts
    decide
  · rintro ⟨rest, longer, -⟩
    have lengths := congrArg List.length longer
    simp [firstVersion, secondVersion, Text.join, Text.ofString] at lengths

/-- The options of a module and of one whose prefix is longer. -/
def outerOptions : Options := { localPrefix := "a" }

def innerOptions : Options := { localPrefix := "a_b" }

/-- Two modules with different prefixes have a private key in common. -/
theorem nested_prefixes_share_key :
    outerOptions.localPrefix ≠ innerOptions.localPrefix ∧
    ((parse "function b_x() \x7b\x7d").toOption.bind fun program =>
      (compile outerOptions program).toOption.map fun compiled => compiled.table.symbols) =
      some [⟨"b_x", "_a_b_x", "_a_b_x", .internal, .function⟩] ∧
    ((parse "function x() \x7b\x7d").toOption.bind fun program =>
      (compile innerOptions program).toOption.map fun compiled => compiled.table.symbols) =
      some [⟨"x", "_a_b_x", "_a_b_x", .internal, .function⟩] := by
  decide +kernel

end LibraryDescriptor
