import Highlighting.Catalog
import Highlighting.Proofs.CaptureTokens
import Highlighting.Proofs.RuleTokens

/-! No lexer trips the coverage check. Rules and captures alike give tokens that tile the text, and
then the walk along the tokens of a viewport cannot fail. -/
namespace Highlighting

/-- The tokenizer never fails, and what it cuts a text into tiles the text. -/
def Tokenizer.Covers (tokenizer : Tokenizer) : Prop :=
  ∀ text, ∃ tokens, tokenizer.lex text = .ok tokens ∧ Tiles tokens text

theorem Tokenizer.covers_ofQuery (name : String) (grammar : Grammar) (query : Query) :
    (Tokenizer.ofQuery name grammar query).Covers :=
  fun text => ⟨_, rfl, Capture.tokens_tiles text _⟩

theorem RuleLexer.covers_tokenizer (lexer : RuleLexer) : lexer.tokenizer.Covers :=
  fun text => ⟨_, rfl, Rule.tokens_tiles lexer.rules text⟩

theorem Viewport.tokenize_of_tiles {tokenizer : Tokenizer} {view : Viewport} {tokens : List Token}
    (lexed : tokenizer.lex view.text = .ok tokens) (tiles : Tiles tokens view.text)
    (mapping : Mapping) (faces : Faces) (cursor : Nat) :
    ∃ spans, tokenize tokenizer mapping faces view cursor = .ok spans :=
  ⟨_, tokenize_eq_ok_iff.mpr ⟨tokens, lexed, tiles.joins, rfl⟩⟩

theorem Viewport.tokenize_of_covers {tokenizer : Tokenizer} (covers : tokenizer.Covers)
    (mapping : Mapping) (faces : Faces) (view : Viewport) (cursor : Nat) :
    ∃ spans, tokenize tokenizer mapping faces view cursor = .ok spans := by
  obtain ⟨tokens, lexed, tiles⟩ := covers view.text
  exact tokenize_of_tiles lexed tiles mapping faces cursor

/-- A tokenizer of captures from anywhere. Finding them may fail. -/
def Tokenizer.ofCaptures (name : String) (captures : List Char → Except Error (List Capture)) :
    Tokenizer :=
  ⟨name, fun text => (captures text).map (Capture.tokens text)⟩

/-- Lexing by captures fails only where there are no captures. -/
theorem Viewport.tokenize_ofCaptures {name : String}
    {captures : List Char → Except Error (List Capture)} {mapping : Mapping} {faces : Faces}
    {view : Viewport} {cursor : Nat} {e : Error}
    (failed : tokenize (.ofCaptures name captures) mapping faces view cursor = .error e) :
    captures view.text = .error e := by
  cases found : captures view.text with
  | error other =>
    simp only [tokenize, Tokenizer.ofCaptures, found, Except.map] at failed
    cases failed
    rfl
  | ok list =>
    have lexed : (Tokenizer.ofCaptures name captures).lex view.text =
        .ok (Capture.tokens view.text list) := by
      simp only [Tokenizer.ofCaptures, found, Except.map]
    obtain ⟨spans, done⟩ :=
      tokenize_of_tiles lexed (Capture.tokens_tiles view.text list) mapping faces cursor
    cases failed.symm.trans done

/- The bundled lexers. -/

theorem Catalog.ofGrammar_of_mem {lexer : Lexer} (bundled : lexer ∈ Catalog.lexers) :
    ∃ id patterns grammar query, lexer = .ofGrammar id patterns grammar query := by
  simp only [Catalog.lexers, List.mem_cons, List.not_mem_nil, or_false] at bundled
  rcases bundled with rfl | rfl | rfl | rfl | rfl | rfl | rfl | rfl | rfl <;>
    exact ⟨_, _, _, _, rfl⟩

theorem Lexer.ofQuery_of_build {id : String} {patterns : List String} {grammar : Unit → Grammar}
    {query : String} {memory : Memory} {tokenizer : Tokenizer}
    (built : (Lexer.ofGrammar id patterns grammar query).build memory = .ok tokenizer) :
    ∃ parsed, tokenizer = .ofQuery id (grammar ()) parsed := by
  simp only [Lexer.ofGrammar, Lexer.ofPatterns, Lexer.build] at built
  split at built
  · cases built
  · cases built
    exact ⟨_, rfl⟩

theorem Catalog.covers_of_build {lexer : Lexer} (bundled : lexer ∈ Catalog.lexers)
    {memory : Memory} {tokenizer : Tokenizer} (built : lexer.build memory = .ok tokenizer) :
    tokenizer.Covers := by
  obtain ⟨id, patterns, grammar, query, rfl⟩ := Catalog.ofGrammar_of_mem bundled
  obtain ⟨parsed, rfl⟩ := Lexer.ofQuery_of_build built
  exact Tokenizer.covers_ofQuery id (grammar ()) parsed

/-- Rules tile every text, without a slice inside a character and in as many steps as there are
bytes; captures tile it whatever they are. So the coverage check fails for neither, and for none of
the bundled lexers. -/
theorem lexers_cover_every_text :
    (∀ (lexer : RuleLexer) (text : List Char),
      lexer.tokenizer.lex text = .ok (Rule.tokens lexer.rules text) ∧
        Tiles (Rule.tokens lexer.rules text) text ∧
        ∀ steps, Utf8.byteLength text < steps →
          Rule.scan? lexer.rules text steps 0 0 = some (Rule.tokens lexer.rules text)) ∧
    (∀ (text : List Char) (captures : List Capture),
      Tiles (Capture.walk (Utf8.byteLength text) 0 text captures) text ∧
        Capture.sweep? text 0 captures =
          some (Capture.walk (Utf8.byteLength text) 0 text captures)) ∧
    (∀ (lexer : RuleLexer) (mapping : Mapping) (faces : Faces) (view : Viewport) (cursor : Nat),
      ∃ spans, Viewport.tokenize lexer.tokenizer mapping faces view cursor = .ok spans) ∧
    (∀ (name : String) (captures : List Char → Except Error (List Capture)) (mapping : Mapping)
      (faces : Faces) (view : Viewport) (cursor : Nat) (e : Error),
      Viewport.tokenize (.ofCaptures name captures) mapping faces view cursor = .error e →
        captures view.text = .error e) ∧
    ∀ lexer ∈ Catalog.lexers, ∀ memory tokenizer, lexer.build memory = .ok tokenizer →
      tokenizer.Covers ∧ ∀ (mapping : Mapping) (faces : Faces) (view : Viewport) (cursor : Nat),
        ∃ spans, Viewport.tokenize tokenizer mapping faces view cursor = .ok spans := by
  refine ⟨?_, ?_, ?_, ?_, ?_⟩
  · intro lexer text
    exact ⟨rfl, Rule.tokens_tiles lexer.rules text,
      fun steps enough => Rule.scan?_eq_tokens lexer.rules text enough⟩
  · intro text captures
    exact ⟨Capture.walk_tiles _ 0 text captures, Capture.sweep?_eq_walk [] text captures⟩
  · intro lexer
    exact Viewport.tokenize_of_covers lexer.covers_tokenizer
  · intro name captures mapping faces view cursor e failed
    exact Viewport.tokenize_ofCaptures failed
  · intro lexer bundled memory tokenizer built
    have covers := Catalog.covers_of_build bundled built
    exact ⟨covers, Viewport.tokenize_of_covers covers⟩

end Highlighting
