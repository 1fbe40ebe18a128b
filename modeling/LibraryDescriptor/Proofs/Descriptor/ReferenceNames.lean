import LibraryDescriptor.Proofs.Descriptor.Entries
import LibraryDescriptor.Proofs.Parser.Soundness
import LibraryDescriptor.Proofs.Symbol.Exports
import LibraryDescriptor.Proofs.Token.Layout

/-!
# Names for references

Code refers to a symbol by a name that is scanned as one token. The name of a private symbol, or one
that the runtime library derives, has an underscore, which no reserved word has. An exported symbol
in the uniform style is referred to by its exported name, and that may be a reserved word.

* `Text.scan_isWord` — a word is scanned as one token; `Text.IsName.scan`, `Keyword.scan_spelling`.
* `Options.isWord_reference`, `Options.ofText?_reference` — the names for references are words, and
  when they are reserved.
* `compile_scans_references` — what the names of a compiled module are scanned as.
-/

namespace LibraryDescriptor

/-! ## Words -/

theorem Text.scan_isWord {t : Text} (word : t.isWord = true) :
    (scan t).map Tokens.lexemes = .ok [Lexeme.read (.identifier t)] := by
  have separated : Layout.Separated [.lexeme (.identifier t)] [] := ⟨word, rfl, trivial⟩
  have text : Layout.text [.lexeme (.identifier t)] = t := List.append_nil t
  have scanned := separated.scan
  rw [text] at scanned
  rw [scanned]
  rfl

theorem Text.IsName.scan {t : Text} (isName : t.IsName) :
    (LibraryDescriptor.scan t).map Tokens.lexemes = .ok [.identifier t] := by
  rw [Text.scan_isWord isName.word, Lexeme.read_identifier isName]

theorem Keyword.scan_spelling (k : Keyword) :
    (scan k.spelling).map Tokens.lexemes = .ok [.keyword k] := by
  rw [Text.scan_isWord (Text.isWord_spelling k), Lexeme.read_spelling]

/-- Words without a gap between them are a word. -/
theorem Text.isWord_join {first : Text} {rest : List Text} (word : first.isWord = true)
    (words : ∀ t ∈ rest, Text.isWord t = true) : isWord (join (first :: rest)) = true := by
  cases first with
  | nil => cases word
  | cons p more =>
    simp only [isWord, join, List.flatten_cons, List.cons_append, Bool.and_eq_true,
      List.all_append] at word ⊢
    refine ⟨word.1, word.2, List.all_eq_true.mpr fun q member => ?_⟩
    obtain ⟨t, listed, inside⟩ := List.mem_flatten.mp member
    exact all_of_isWord (words t listed) q inside

theorem Keyword.underscore_not_mem_spelling :
    ∀ k ∈ all, CodePoint.scalar '_' ∉ k.spelling := by
  decide +kernel

/-- A text with an underscore is not reserved. -/
theorem Keyword.ofText?_eq_none {t : Text} (underscore : .scalar '_' ∈ t) : ofText? t = none := by
  cases found : ofText? t with
  | none => rfl
  | some k =>
    rw [← spelling_of_ofText? found] at underscore
    exact absurd underscore (underscore_not_mem_spelling k k.mem_all)

/-! ## Private prefixes -/

theorem toNat_lt_of_isPlainPart {c : Char} (plain : isPlainPart c = true) : c.toNat < 128 := by
  have ranges : ((((decide (65 ≤ c.val ∧ c.val ≤ 90) ||
      (decide (97 ≤ c.val) && decide (c.val ≤ 122))) || c == '_') || c == '$') ||
      (decide (48 ≤ c.val) && decide (c.val ≤ 57))) = true := plain
  simp only [Bool.or_eq_true, Bool.and_eq_true, decide_eq_true_eq, beq_iff_eq,
    UInt32.le_iff_toNat_le] at ranges
  change ((((65 ≤ c.toNat ∧ c.toNat ≤ 90) ∨ (97 ≤ c.toNat ∧ c.toNat ≤ 122)) ∨ c = '_') ∨ c = '$') ∨
    (48 ≤ c.toNat ∧ c.toNat ≤ 57) at ranges
  rcases ranges with (((upper | lower) | rfl) | rfl) | digit
  · omega
  · omega
  · decide
  · decide
  · omega

theorem isWord_parts_of_lt : ∀ n < 128,
    (isPlainStart (.ofNat n) = true → isWordStart (.ofNat n) = true) ∧
    (isPlainPart (.ofNat n) = true → isIdentifierPart (.ofNat n) = true) ∧
    (isPlainPart (.ofNat n) = true → isWordStart (.ofNat n) = true →
      isPlainStart (.ofNat n) = true) := by
  decide +kernel

theorem isWordStart_of_isPlainStart {c : Char} (plain : isPlainStart c = true) :
    isWordStart c = true := by
  have ascii := toNat_lt_of_isPlainPart (c := c) (by rw [isPlainPart, plain, Bool.true_or])
  have known := (isWord_parts_of_lt c.toNat ascii).1
  rw [Char.ofNat_toNat] at known
  exact known plain

theorem isIdentifierPart_of_isPlainPart {c : Char} (plain : isPlainPart c = true) :
    isIdentifierPart c = true := by
  have known := (isWord_parts_of_lt c.toNat (toNat_lt_of_isPlainPart plain)).2.1
  rw [Char.ofNat_toNat] at known
  exact known plain

theorem CodePoint.has_mono {property other : Char → Bool} {p : CodePoint}
    (stronger : ∀ {c}, property c = true → other c = true) (has : p.has property = true) :
    p.has other = true := by
  cases p with
  | scalar c => exact stronger has
  | surrogate => cases has

theorem Text.isWord_of_isPlainIdentifier {t : Text} (plain : isPlainIdentifier t = true) :
    t.isWord = true := by
  cases t with
  | nil => cases plain
  | cons p rest =>
    simp only [isPlainIdentifier, isWord, Bool.and_eq_true, List.all_eq_true] at plain ⊢
    exact ⟨CodePoint.has_mono isWordStart_of_isPlainStart plain.1, fun q member =>
      CodePoint.has_mono isIdentifierPart_of_isPlainPart (plain.2 q member)⟩

/-! ## The names of symbols -/

section Names

variable (options : Options) {name : Text} {exported : Option Text}

theorem Options.isWord_reference (declared : name.isWord = true)
    (named : ∀ e ∈ exported, Text.isWord e = true) :
    (options.names name exported).reference.isWord = true := by
  have underscore : Text.isWord "_" = true := by decide
  have module := Text.isWord_of_isPlainIdentifier options.isPlainIdentifier_localPrefix
  -- All names are put together from words: underscores, the prefix, and names of the module.
  unfold Options.names
  split
  · exact Text.isWord_join underscore (by simpa using named)
  · exact Text.isWord_join module (by simpa using ⟨underscore, declared⟩)
  · exact named _ rfl
  · exact Text.isWord_join underscore (by simpa using ⟨module, underscore, declared⟩)

/-- The name for references is reserved only if it is an exported name as it stands. -/
theorem Options.ofText?_reference {word : Keyword} :
    Keyword.ofText? (options.names name exported).reference = some word ↔
      options.style = .uniform ∧ exported = some word.spelling := by
  have free {parts : List Text} (underscore : Text.ofString "_" ∈ parts) :
      Keyword.ofText? (.join parts) = none :=
    Keyword.ofText?_eq_none (List.mem_flatten.mpr ⟨_, underscore, List.mem_cons_self⟩)
  unfold Options.names
  split
  · next style => simp [free, style]
  · next style => simp [free, style]
  · next e style =>
    constructor
    · intro found
      exact ⟨style, congrArg some (Keyword.spelling_of_ofText? found).symm⟩
    · rintro ⟨-, same⟩
      rw [Option.some.inj same, Keyword.ofText?_spelling]
  · simp [free]

end Names

/-! ## Names of modules that were parsed -/

theorem Declaration.Grammatical.isName {d : Declaration Text} (grammatical : d.Grammatical) :
    ∀ n ∈ d.names, Text.IsName n := by
  cases grammatical with
  | function name _ _ =>
    intro n member
    rwa [List.mem_singleton.mp member]
  | «variables» _ _ each =>
    intro n member
    obtain ⟨d, declared, rfl⟩ := List.mem_map.mp member
    cases each d declared with
    | mk name _ => exact name

theorem Statement.IsItem.isWord_declared {s : Statement Text} {d : Declaration Text}
    (item : s.IsItem) (declared : s.declared? = some d) : ∀ n ∈ d.names, Text.isWord n = true := by
  intro n member
  cases item with
  | statement grammatical =>
    cases grammatical with
    | declaration value =>
      obtain rfl := Option.some.inj declared
      exact (value.isName n member).word
    | _ => cases declared
  | exportDeclaration value =>
    obtain rfl := Option.some.inj declared
    exact (value.isName n member).word
  | exportList | importList => cases declared

theorem Statement.IsItem.specifiers {specifiers : List (ExportSpecifier Text)}
    {source : Option Literal} (item : IsItem (.exportList specifiers source)) :
    ∀ s ∈ specifiers, s.Grammatical := by
  cases item with
  | statement grammatical => cases grammatical
  | exportList _ each => exact each

theorem Statement.isWord_exported {s : Statement Occurrence} (item : s.erase.IsItem)
    {pair : Text × Text} (member : pair ∈ s.exportPairs) : pair.2.isWord = true := by
  match s with
  | .exportDeclaration value =>
    obtain ⟨o, listed, rfl⟩ := List.mem_map.mp member
    apply item.isWord_declared rfl
    rw [Declaration.names_map]
    exact List.mem_map_of_mem listed
  | .exportList specifiers source =>
    obtain ⟨specifier, listed, rfl⟩ := List.mem_map.mp member
    exact (IsItem.specifiers item _ (List.mem_map_of_mem listed)).exported

section Parsed

variable {program : Program Text} (items : ∀ s ∈ program.body, s.IsItem)

include items

theorem Program.isWord_exported {pair : Text × Text} (member : pair ∈ program.label.exportPairs) :
    pair.2.isWord = true := by
  obtain ⟨s, listed, exported⟩ := List.mem_flatMap.mp member
  have erased := Program.erase_mem_body listed
  rw [program.label_erase] at erased
  exact Statement.isWord_exported (items _ erased) exported

theorem Program.isWord_topLevelName {name : Text} (member : name ∈ program.topLevelNames) :
    name.isWord = true := by
  obtain ⟨d, declared, named⟩ := List.mem_flatMap.mp member
  obtain ⟨s, listed, found⟩ := List.mem_filterMap.mp declared
  exact (items s listed).isWord_declared found name named

end Parsed

/-- The symbols of a module of declarations are what its declarations declare. -/
theorem Program.mem_topLevelNames {program : Program Text} {name : Text}
    (only : program.label.withoutExports.DeclaresOnly)
    (member : name ∈ program.label.withoutExports.names) : name ∈ program.topLevelNames := by
  obtain ⟨d, defined, rfl⟩ := program.label.withoutExports.symbols_groups.mem_names.mp member
  have listed : d.occurrence ∈ program.label.topLevelNames := by
    rw [Program.topLevelNames, ← Program.withoutExports_declarations, ← Program.topLevelNames,
      ← only.definitions_eq]
    exact List.mem_map_of_mem defined
  have erased : d.occurrence.name ∈ program.label.erase.topLevelNames := by
    rw [Program.erase, Program.topLevelNames_map]
    exact List.mem_map_of_mem listed
  rwa [program.label_erase] at erased

theorem ScopeAnalysis.Resolved.reference_eq {a : ScopeAnalysis} {exports : ExportMap}
    {options : Options} {table : SymbolTable} (resolved : a.Resolved exports options table)
    {s : ResolvedSymbol} (member : s ∈ table.symbols) :
    s.reference = (options.names s.name (exports.exported? s.name)).reference := by
  rw [resolved.symbols] at member
  obtain ⟨symbol, -, rfl⟩ := List.mem_map.mp member
  rfl

/-! ## References of compiled modules -/

/-- In a compiled module each use that means a symbol gets the symbol's name for references, and
that name is scanned as one identifier, unless the symbol is exported under a reserved word in the
uniform style: then it is scanned as the reserved word. -/
theorem compile_scans_references [Serializer] {source : Text} {program : Program Text}
    {options : Options}
    {compiled : Compiled} (parsed : parse source = .ok program)
    (success : compile options program = .ok compiled) :
    (∀ u ∈ program.label.withoutExports.ownedUses, u.refers program.label.withoutExports.names →
      ∃ s ∈ compiled.table.symbols, s.name = u.use.name ∧
        (u.use.occurrence.rename
          (compiled.table.renaming program.label.withoutExports.analyze)).name = s.reference) ∧
    ∀ s ∈ compiled.table.symbols,
      (∀ word : Keyword, options.style = .uniform →
        (s.name, word.spelling) ∈ program.label.exportPairs →
        s.reference = word.spelling ∧
          (scan s.reference).map Tokens.lexemes = .ok [.keyword word]) ∧
      ((∀ word : Keyword, options.style = .uniform →
        (s.name, word.spelling) ∉ program.label.exportPairs) →
        (scan s.reference).map Tokens.lexemes = .ok [.identifier s.reference]) := by
  obtain ⟨items, -⟩ := parse_sound parsed
  obtain ⟨exports, valid, exported, success, -⟩ := compile_eq_ok success
  have resolved := ScopeAnalysis.resolve_resolved success
  have numbered := Program.withoutExports_numbered program.label_numbered
  have only := Program.declaresOnly_of_validate valid
  obtain ⟨_, mapped, done⟩ := bind_eq_ok.mp exported
  obtain ⟨rfl, -⟩ := Prod.mk.inj (pure_eq_ok.mp done)
  obtain ⟨distinct, -, rfl⟩ := ExportMap.ofPairs_eq_ok.mp mapped
  constructor
  · intro u member refers
    obtain ⟨s, s_member, named, found, -⟩ := resolved.exists_target member refers
    have renamed := (compiled.table.renaming_serves _).reference numbered member refers
    rw [found, Option.getD_some] at renamed
    exact ⟨s, s_member, named, renamed⟩
  · intro s member
    have declared : s.name ∈ program.label.withoutExports.names :=
      resolved.names_eq ▸ List.mem_map_of_mem member
    have word : s.reference.isWord = true := by
      rw [resolved.reference_eq member]
      apply Options.isWord_reference
      · exact Program.isWord_topLevelName items (Program.mem_topLevelNames only declared)
      · intro e found
        exact Program.isWord_exported items (mem_of_lookup found)
    have reserved {keyword : Keyword} : Keyword.ofText? s.reference = some keyword ↔
        options.style = .uniform ∧ (s.name, keyword.spelling) ∈ program.label.exportPairs := by
      rw [resolved.reference_eq member, Options.ofText?_reference,
        ExportMap.exported?_eq_some distinct]
    constructor
    · intro keyword style listed
      rw [← Keyword.spelling_of_ofText? (reserved.mpr ⟨style, listed⟩)]
      exact ⟨rfl, keyword.scan_spelling⟩
    · intro unlisted
      have free : Keyword.ofText? s.reference = none := by
        apply Option.eq_none_iff_forall_ne_some.mpr
        intro keyword found
        obtain ⟨style, listed⟩ := reserved.mp found
        exact unlisted keyword style listed
      exact Text.IsName.scan ⟨word, free⟩

/-- A module with a function that calls itself and is exported under the name of an operator. -/
def operatorSource : Text :=
  "function f() \x7b return f(); \x7d function g() \x7b\x7d export \x7b f as delete \x7d;"

theorem operatorSource_scans_references :
    ∃ program compiled, parse operatorSource = .ok program ∧
      compile {} program = .ok compiled ∧
      ∃ f ∈ compiled.table.symbols, ∃ g ∈ compiled.table.symbols,
        (scan f.reference).map Tokens.lexemes = .ok [.keyword .delete] ∧
        (scan g.reference).map Tokens.lexemes = .ok [.identifier "_unnamed_g"] := by
  have found : (parse operatorSource).toOption.map (fun program =>
      (program.label.exportPairs, (compile {} program).toOption.map fun compiled =>
        compiled.table.symbols)) =
      some ([(Text.ofString "f", Text.ofString "delete")],
        some [⟨"f", "delete", "delete", .exported, .function⟩,
          ⟨"g", "_unnamed_g", "_unnamed_g", .internal, .function⟩]) := by
    decide +kernel
  cases parsed : parse operatorSource with
  | error e =>
    rw [parsed] at found
    cases found
  | ok program =>
    rw [parsed, Except.toOption, Option.map_some, Option.some_inj, Prod.mk.injEq] at found
    obtain ⟨pairs, made⟩ := found
    cases success : compile {} program with
    | error e =>
      rw [success] at made
      cases made
    | ok compiled =>
      rw [success, Except.toOption, Option.map_some, Option.some_inj] at made
      obtain ⟨-, scans⟩ := compile_scans_references parsed success
      rw [made, pairs] at scans
      refine ⟨program, compiled, rfl, success, _, made ▸ List.mem_cons_self, _,
        made ▸ List.mem_cons_of_mem _ List.mem_cons_self, ?_, ?_⟩
      · exact ((scans _ List.mem_cons_self).1 .delete rfl List.mem_cons_self).2
      · apply (scans _ (List.mem_cons_of_mem _ List.mem_cons_self)).2
        intro word _ listed
        cases List.mem_singleton.mp listed

/-- The text of its descriptor. -/
def operatorText : Text :=
  .joinWith "\n" ["Object.assign(LibraryManager.library, \x7b", "    delete: function () \x7b",
    "        return delete();", "    \x7d,", "    _unnamed_g: function () \x7b\x7d", "\x7d);", ""]

/-- A name for references is scanned as an operator, and the descriptor cannot be read. -/
theorem operatorText_unreadable :
    ((parse operatorSource).toOption.bind fun program =>
      (compile {} program).toOption.map fun compiled =>
        (compiled.table.symbols.map fun s => (scan s.reference).toOption.map Tokens.lexemes,
          compiled.descriptor.erase.print)) =
      some ([some [.keyword .delete], some [.identifier "_unnamed_g"]], .ok operatorText) ∧
    (parse operatorText).toOption.isNone = true := by
  decide +kernel

end LibraryDescriptor
