import ClassLowering.Proofs.Heap.SymbolNumbers
import ClassLowering.Proofs.Runs.Moments

/-!
# Symbols that runs create

Whatever a run does, it creates symbols one after another, and the numbers of
all of them come from one counter that starts at one. So the number of a
symbol tells the place of its creation, but for whole rounds of the counter.
Symbols are unique within a round. A program that creates more symbols than
there are numbers gets hold of two symbols that are the same, though it
created each of them.

A loop that creates symbols creates as many of them as its rounds do together.
That is how a program comes past the end of a round.
-/

namespace ClassLowering

/-- A run creates symbols one after another up to every state that it
reaches. -/
theorem State.Reaches.exists_creates
    {now : State}
    (reaches : Program.initialState.Reaches now) :
    ∃ symbols, Heap.empty.Creates symbols now.heap := by
  have starts : Heap.empty.Creates [] Program.initialState.heap :=
    .of_nextSymbol_eq rfl
  obtain ⟨symbols, creates⟩ :=
    (reaches.moves Program.sound_initialState).path.exists_creates
  exact ⟨_, starts.trans creates⟩

/--
Symbols with one description are created between two states, and a name of the
session stands for the newest of them. The rest of the session is left alone.
-/
structure State.CreatesUnder (name : String) (description : Option String)
    (symbols : List Symbol) (before after : State) : Prop where
  creates : before.heap.Creates symbols after.heap
  described : ∀ symbol ∈ symbols, symbol.description = description
  session : after.session =
    { before.session with symbols := after.session.symbols }
  newest : after.session.symbols.find? name =
    symbols.getLast?.or (before.session.symbols.find? name)
  others : ∀ other, other ≠ name ->
    after.session.symbols.find? other = before.session.symbols.find? other

namespace State.CreatesUnder

variable {name : String} {description : Option String}

/-- No symbol is created while nothing happens. -/
theorem refl
    (state : State) :
    state.CreatesUnder name description [] state where
  creates := .refl
  described _ present := absurd present List.not_mem_nil
  session := rfl
  newest := rfl
  others _ _ := rfl

/-- One creation after another. -/
theorem trans
    {first second third : State}
    {symbols later : List Symbol}
    (earlier : first.CreatesUnder name description symbols second)
    (creates : second.CreatesUnder name description later third) :
    first.CreatesUnder name description (symbols ++ later) third where
  creates := earlier.creates.trans creates.creates
  described symbol present :=
    (List.mem_append.1 present).elim (earlier.described symbol)
      (creates.described symbol)
  session := by rw [creates.session, earlier.session]
  newest := by
    rw [creates.newest, earlier.newest, List.getLast?_append, Option.or_assoc]
  others other different :=
    (creates.others other different).trans (earlier.others other different)

/-- A symbol that is created and stored under the name is the newest. -/
theorem stored (state : State) :
    let (symbol, heap) := state.heap.newSymbol description
    state.CreatesUnder name description [symbol]
      { state with
        heap := heap
        session :=
          { state.session with symbols :=
            state.session.symbols.insert name symbol } } where
  creates := .symbol description .refl
  described symbol present := by rw [List.mem_singleton.1 present]
  session := rfl
  newest := OrderedMap.find?_insert_self _ name _
  others _ different :=
    OrderedMap.find?_insert_of_not_beq _ _ fun same =>
      different (eq_of_beq same).symm

end State.CreatesUnder

/--
A computation ends well wherever it starts, and by then has created a number of
symbols under a name.
-/
def BodyM.Renews {α : Type} (name : String) (description : Option String)
    (count : Nat) (run : BodyM α) : Prop :=
  ∀ before : BodyState, ∃ result after symbols, run before = .ok result after ∧
    before.state.CreatesUnder name description symbols after.state ∧
      symbols.length = count

namespace BodyM.Renews

variable {α β : Type} {name : String} {description : Option String}
  {count further : Nat}

/-- A result that is known creates nothing. -/
theorem pure
    (result : α) :
    Renews name description 0 (Pure.pure result : BodyM α) :=
  fun before => ⟨result, before, [], rfl, .refl before.state, rfl⟩

/-- Two computations create together what each of them creates. -/
theorem bind
    {run : BodyM α}
    {next : α -> BodyM β}
    (renews : Renews name description count run)
    (goesOn : ∀ result, Renews name description further (next result)) :
    Renews name description (count + further) (run >>= next) := by
  intro before
  obtain ⟨result, between, symbols, ended, creates, size⟩ := renews before
  obtain ⟨last, after, later, endedLater, createsLater, sizeLater⟩ :=
    goesOn result between
  refine ⟨last, after, symbols ++ later, ?_, creates.trans createsLater, ?_⟩
  · rw [bind_of_ok ended, endedLater]
  · rw [List.length_append, size, sizeLater]

/-- A local variable is no symbol. -/
theorem setLocal (variableName : String) (value : Value) :
    Renews name description 0 (BodyM.setLocal variableName value) :=
  fun before =>
    ⟨(), { before with locals := before.locals.insert variableName value }, [],
      rfl, .refl before.state, rfl⟩

/-- A loop creates as many symbols as each of its rounds, times the rounds. -/
theorem countUp
    {action : Nat -> BodyM Unit}
    (each : ∀ index, Renews name description count (action index))
    (rounds index : Nat) :
    Renews name description (rounds * count)
      (BodyM.countUp action rounds index) := by
  -- The index goes into a local alone, so the rounds are the same for every
  -- one.
  induction rounds generalizing index with
  | zero =>
      rw [Nat.zero_mul]
      exact pure ()
  | succ rounds hypothesis =>
      rw [Nat.succ_mul, Nat.add_comm]
      exact bind (each index) fun _ => hypothesis (index + 1)

end BodyM.Renews

section Expressions

variable (call : Caller) (context : Context)

/-- Asking for a fresh symbol creates one. -/
theorem renews_freshSymbol (name : String) (description : Option String) :
    BodyM.Renews name description 1
      (evaluate call context
        (.apply (.storage (.freshSymbol name description)) [])) := by
  intro before
  exact ⟨_, ⟨_, before.locals, before.yields⟩, _, rfl,
    .stored before.state, rfl⟩

/-- A loop with a fixed count creates as many symbols as its body, times the
count. -/
theorem renews_loop
    {name : String}
    {description : Option String}
    {count : Nat}
    {body : Expr}
    (localName : String)
    (rounds : Literal)
    (renews : BodyM.Renews name description count
      (evaluate call context body)) :
    BodyM.Renews name description (rounds.toValue.toCount * count)
      (evaluate call context (.loop localName (.literal rounds) body)) := by
  have each (index : Nat) : BodyM.Renews name description (0 + (count + 0))
      (do BodyM.setLocal localName (.ofNat index)
          discard (evaluate call context body)) :=
    .bind (.setLocal localName _) fun _ => .bind renews fun _ => .pure ()
  rw [Nat.zero_add, Nat.add_zero] at each
  exact (BodyM.Renews.countUp each rounds.toValue.toCount 0).bind fun _ =>
    .pure Value.undefined

/-- A loop that ends well has no value. -/
theorem value_of_loop
    {localName : String}
    {rounds : Literal}
    {body : Expr}
    {before after : BodyState}
    {value : Value}
    (ended : evaluate call context
      (.loop localName (.literal rounds) body) before = .ok value after) :
    value = .undefined := by
  let round (index : Nat) : BodyM Unit := do
    BodyM.setLocal localName (.ofNat index)
    discard (evaluate call context body)
  let loop : BodyM Unit := BodyM.countUp round rounds.toValue.toCount 0
  have unfolded :
      evaluate call context (.loop localName (.literal rounds) body) =
      loop >>= fun _ => pure .undefined := rfl
  rw [unfolded] at ended
  cases counted : loop before with
  | ok _ between =>
      rw [BodyM.bind_of_ok counted] at ended
      cases ended
      rfl
  | error interruption between =>
      rw [BodyM.bind_of_error counted] at ended
      cases ended

/-- The symbol of the session with a name is what the name stands for. -/
theorem evaluate_symbol
    {name : String}
    {symbol : Symbol}
    {before : BodyState}
    (found : before.state.session.symbols.find? name = some symbol) :
    evaluate call context (.apply (.storage (.symbol name)) []) before =
      .ok (.symbol symbol) before := by
  have named : symbolNamed name before.state = .ok symbol before.state := by
    rw [symbolNamed, RunM.bind_of_ok (RunM.readSession_apply _ _), found]
    rfl
  show (do return Value.symbol (← BodyM.lift (symbolNamed name)) : BodyM Value)
    before = _
  rw [BodyM.bind_of_ok (BodyM.lift_of_ok named)]
  rfl

/-- Two values are compared once both are known. -/
theorem evaluate_strictEquals
    {left right : Expr}
    {leftValue rightValue : Value}
    {before : BodyState}
    (leftKnown : ∀ context, evaluate call context left before =
      .ok leftValue before)
    (rightKnown : ∀ context, evaluate call context right before =
      .ok rightValue before) :
    evaluate call context
      (.apply (.calculation .strictEquals) [left, right]) before =
      .ok (.bool (leftValue.strictEquals rightValue)) before := by
  have operands : evaluateAll call context [] [left, right] before =
      .ok [leftValue, rightValue] before := by
    rw [evaluateAll, BodyM.bind_of_ok (leftKnown _), evaluateAll,
      BodyM.bind_of_ok (rightKnown _)]
    rfl
  rw [evaluate, BodyM.bind_of_ok operands]
  rfl

end Expressions

/-- A step that evaluates an expression shows its value and hands out
what was logged. -/
theorem Step.run_evaluate
    {call : Caller}
    {subject : Expr}
    {before last : State}
    {value : Value}
    {after : BodyState}
    {shown : Shown}
    (evaluated : ClassLowering.evaluate call .host subject
      ⟨{ before with session := { before.session with log := [] } }, ∅,
        .empty⟩ = .ok value after)
    (shows : showValue value after.state = .ok shown last) :
    (Step.evaluate subject none).run call before =
      (⟨.done (.shown shown), last.session.log.reverse⟩, last) := by
  have acts : (Step.evaluate subject none).act call
      ⟨{ before with session := { before.session with log := [] } },
        ∅, .empty⟩ = .ok (.shown shown) ⟨last, after.locals, after.yields⟩ := by
    have shown : (liftM (showValue value) : BodyM Shown) after =
        .ok shown ⟨last, after.locals, after.yields⟩ := BodyM.lift_of_ok shows
    rw [act, BodyM.bind_of_ok evaluated, BodyM.bind_of_ok shown]
    rfl
  rw [run, BodyM.start_of_ok acts]
  rfl

/-- What is known of symbols that were created one after another from the
first number on. -/
structure CountedSymbols (symbols : List Symbol) : Prop where
  /-- The numbers count up from one and wrap around. -/
  number : ∀ place (isPlace : place < symbols.length),
    symbols[place].number.toNat = (place + 1) % 2 ^ 32
  /-- They are different as long as there are no more symbols than numbers. -/
  different_iff : (symbols.map Symbol.number).Nodup ↔ symbols.length ≤ 2 ^ 32
  /-- Zero is handed out at the end of a round, and not before. -/
  zero_iff : 0 ∈ symbols.map Symbol.number ↔ 2 ^ 32 ≤ symbols.length
  /-- Two symbols compare equal just if whole rounds lie between their
  creations. -/
  equal_iff : ∀ place other (isPlace : place < symbols.length)
    (isOther : other < symbols.length),
    Value.strictEquals (.symbol symbols[place])
      (.symbol symbols[other]) = true ↔ place ≡ other [MOD 2 ^ 32]
  /-- Just then they address the same member, whatever their descriptions. -/
  sameMember_iff : ∀ place other (isPlace : place < symbols.length)
    (isOther : other < symbols.length),
      PropertyKey.SameMember (.ofSymbol symbols[place])
        (.ofSymbol symbols[other]) ↔ place ≡ other [MOD 2 ^ 32]
  /-- Within one round, both are so for the symbol of one creation alone. -/
  unique : symbols.length ≤ 2 ^ 32 ->
    ∀ place other (isPlace : place < symbols.length)
      (isOther : other < symbols.length),
      (Value.strictEquals (.symbol symbols[place])
          (.symbol symbols[other]) = true ↔ place = other) ∧
        (PropertyKey.SameMember (.ofSymbol symbols[place])
          (.ofSymbol symbols[other]) ↔ place = other)

/--
Symbols that are created from the first number on are told apart by their
numbers as long as no more of them are created than there are numbers, and are
mistaken for each other from then on.
-/
theorem countedSymbols_of_creates
    {symbols : List Symbol}
    {last : Heap}
    (creates : Heap.empty.Creates symbols last) :
    CountedSymbols symbols := by
  have equal_iff {place other : Nat} (isPlace : place < symbols.length)
      (isOther : other < symbols.length) :
      Value.strictEquals (.symbol symbols[place])
        (.symbol symbols[other]) = true ↔ place ≡ other [MOD 2 ^ 32] :=
    Value.strictEquals_symbol_iff.trans (creates.number_eq_iff isPlace isOther)
  have sameMember_iff {place other : Nat} (isPlace : place < symbols.length)
      (isOther : other < symbols.length) :
      PropertyKey.SameMember (.ofSymbol symbols[place])
        (.ofSymbol symbols[other]) ↔ place ≡ other [MOD 2 ^ 32] := by
    rw [PropertyKey.sameMember_iff, PropertyKey.ofSymbol_beq_ofSymbol,
      Symbol.beq_iff, creates.number_eq_iff isPlace isOther]
  refine
    { number := fun place isPlace => ?_
      different_iff := creates.nodup_numbers_iff
      zero_iff := creates.zero_mem_numbers_iff rfl
      equal_iff := fun _ _ => equal_iff
      sameMember_iff := fun _ _ => sameMember_iff
      unique := fun few place other isPlace isOther => ?_ }
  · rw [creates.number_eq isPlace, Nat.add_comm]
    rfl
  · have once : place ≡ other [MOD 2 ^ 32] ↔ place = other :=
      ⟨fun round => round.eq_of_lt_of_lt (by omega) (by omega), fun equal =>
        equal ▸ rfl⟩
    rw [equal_iff isPlace isOther, sameMember_iff isPlace isOther, once]
    exact ⟨.rfl, .rfl⟩

/-- Two symbols with one description, between which a scope is opened. -/
theorem countedSymbols_of_creates_tags :
    let tagged := (Heap.empty.newSymbol (some "tag")).2
    let opened := (tagged.newScope none).2
    let tags : List Symbol := [⟨1, some "tag"⟩, ⟨2, some "tag"⟩]
    Heap.empty.Creates tags (opened.newSymbol (some "tag")).2 ∧
      CountedSymbols tags := by
  intro tagged opened tags
  have first : Heap.empty.Creates [⟨1, some "tag"⟩] tagged :=
    .symbol (some "tag") .refl
  have opens : Heap.empty.Creates [⟨1, some "tag"⟩] opened := first.other rfl
  have creates : Heap.empty.Creates tags (opened.newSymbol (some "tag")).2 :=
    opens.symbol _
  exact ⟨creates, countedSymbols_of_creates creates⟩

namespace Program

/-- Two loops, one in the other, that create symbols under a name. -/
def renewingLoops (outer inner : Literal) : Expr :=
  .loop "i" (.literal outer) (.loop "j" (.literal inner)
    (.apply (.storage (.freshSymbol "b" none)) []))

/-- The question whether the symbols under two names are the same. -/
def comparison : Expr :=
  .apply (.calculation .strictEquals)
    [.apply (.storage (.symbol "a")) [], .apply (.storage (.symbol "b")) []]

/-- One symbol is created, then others in loops, and the last of them is
compared with it. -/
def renewingSteps (outer inner : Literal) : List Step :=
  [.evaluate (.apply (.storage (.freshSymbol "a" none)) []) none,
    .evaluate (renewingLoops outer inner) none, .evaluate comparison none]

/-- The first symbol of all. -/
def firstSymbol : Symbol := ⟨1, none⟩

/-- The state in which the first symbol was created and shown. -/
def renewingState : State where
  heap := (initialState.heap.newSymbol none).2
  session := { initialState.session with
    symbols := OrderedMap.empty.insert "a" firstSymbol
    shownSymbols := [(firstSymbol, 0)]
    nextShownSymbol := 1 }
  record := []

/-- Two symbols of the session are the same when their numbers are. -/
theorem run_comparison
    (call : Caller)
    {state : State}
    {symbol other : Symbol}
    (found : state.session.symbols.find? "a" = some symbol)
    (otherFound : state.session.symbols.find? "b" = some other) :
    (Step.evaluate comparison none).run call state =
      (⟨.done (.shown (.bool (symbol == other))), []⟩,
        { state with session := { state.session with log := [] } }) := by
  let fresh : BodyState :=
    ⟨{ state with session := { state.session with log := [] } }, ∅, .empty⟩
  have compared : evaluate call .host comparison fresh =
      .ok (.bool (symbol == other)) fresh :=
    evaluate_strictEquals call .host
      (fun context => evaluate_symbol call context found)
      fun context => evaluate_symbol call context otherFound
  exact Step.run_evaluate compared rfl

/-- The loops create as many symbols as they count, and have no value. -/
theorem run_renewingLoops
    (call : Caller)
    (outer inner : Literal) :
    ∃ symbols after,
      (Step.evaluate (renewingLoops outer inner) none).run call renewingState =
        (⟨.done (.shown .undefined), []⟩, after) ∧
      renewingState.CreatesUnder "b" none symbols after ∧
      symbols.length = outer.toValue.toCount * inner.toValue.toCount := by
  obtain ⟨value, after, symbols, ended, creates, size⟩ :=
    renews_loop call .host "i" outer (renews_loop call .host "j" inner
      (renews_freshSymbol call .host "b" none)) ⟨renewingState, ∅, .empty⟩
  obtain rfl := value_of_loop call .host ended
  have answers :
      (Step.evaluate (renewingLoops outer inner) none).run call renewingState =
      (⟨.done (.shown .undefined), after.state.session.log.reverse⟩,
        after.state) :=
    Step.run_evaluate ended rfl
  have quiet : after.state.session.log = [] := by
    rw [creates.session]
    rfl
  rw [quiet, List.reverse_nil] at answers
  exact ⟨symbols, after.state, answers, creates,
    size.trans (by rw [Nat.mul_one])⟩

/--
A program that creates symbols in two loops creates as many as they
count, and finds the newest one the same as the first just if whole
rounds lie between them.
-/
theorem run_renewingSteps
    (outer inner : Literal)
    (counts : 0 < outer.toValue.toCount * inner.toValue.toCount) :
    ∃ symbols,
      Heap.empty.Creates symbols
        (endState standardCall initialState (renewingSteps outer inner)).heap ∧
      symbols.length = outer.toValue.toCount * inner.toValue.toCount + 1 ∧
      (∀ symbol ∈ symbols, symbol.description = none) ∧
      run (renewingSteps outer inner) =
        [⟨.done (.shown (.symbol 0 none)), []⟩, ⟨.done (.shown .undefined), []⟩,
          ⟨.done (.shown (.bool
            (decide (2 ^ 32 ∣ outer.toValue.toCount * inner.toValue.toCount)))),
            []⟩] := by
  rw [run]
  generalize standardCall = call
  have runFirst :
      (Step.evaluate (.apply (.storage (.freshSymbol "a" none)) []) none).run
        call
      initialState = (⟨.done (.shown (.symbol 0 none)), []⟩, renewingState) :=
        rfl
  obtain ⟨symbols, after, runLoops, creates, size⟩ :=
    run_renewingLoops call outer inner
  have isPlace : symbols.length - 1 < symbols.length := by omega
  have foundFirst : after.session.symbols.find? "a" = some firstSymbol :=
    creates.others "a" (by decide)
  have foundNewest : after.session.symbols.find? "b" =
      some symbols[symbols.length - 1] := by
    rw [creates.newest, List.getLast?_eq_getElem?,
      List.getElem?_eq_getElem isPlace]
    rfl
  have runComparison := run_comparison call foundFirst foundNewest
  -- The loops start with the number two, so the newest number is one behind
  -- whole rounds only.
  have same : (firstSymbol == symbols[symbols.length - 1]) =
      decide (2 ^ 32 ∣ outer.toValue.toCount * inner.toValue.toCount) := by
    refine decide_eq_decide.2 ?_
    rw [← UInt32.toNat_inj, creates.creates.number_eq isPlace, size]
    show 1 = (2 + _) % 2 ^ 32 ↔ _
    omega
  rw [same] at runComparison
  have starts : Heap.empty.Creates [] initialState.heap := .of_nextSymbol_eq rfl
  have whole : Heap.empty.Creates ([firstSymbol] ++ symbols) after.heap :=
    (starts.symbol none).trans creates.creates
  refine ⟨[firstSymbol] ++ symbols, ?_, ?_, ?_, ?_⟩
  · simpa only [endState, renewingSteps, List.foldl_cons, List.foldl_nil,
      runFirst, runLoops, runComparison] using whole
  · rw [List.length_append, List.length_singleton, size, Nat.add_comm]
  · intro symbol present
    rcases List.mem_append.1 present with first | later
    · rw [List.mem_singleton.1 first]
      rfl
    · exact creates.described symbol later
  · simp only [renewingSteps, runFrom, runFirst, runLoops, runComparison]

/--
After a symbol and as many others as there are numbers, the last one is the
first one again, and zero was handed out before it.
-/
theorem not_unique_of_renewingSteps :
    (∃ symbols,
      Heap.empty.Creates symbols (endState standardCall initialState
        (renewingSteps (.number 65536) (.number 65536))).heap ∧
      symbols.length = 2 ^ 32 + 1 ∧ ¬ (symbols.map Symbol.number).Nodup ∧
      0 ∈ symbols.map Symbol.number ∧
      ∃ symbol, symbols[0]? = some symbol ∧ symbols[2 ^ 32]? = some symbol) ∧
    run (renewingSteps (.number 65536) (.number 65536)) =
      [⟨.done (.shown (.symbol 0 none)), []⟩, ⟨.done (.shown .undefined), []⟩,
        ⟨.done (.shown (.bool true)), []⟩] := by
  have rounds : (Literal.number 65536).toValue.toCount = 65536 := by decide
  obtain ⟨symbols, creates, size, described, answers⟩ :=
    run_renewingSteps (.number 65536) (.number 65536) (by rw [rounds]; decide)
  rw [rounds] at size answers
  refine ⟨⟨symbols, creates, size, ?_, ?_, ?_⟩, answers⟩
  · rw [creates.nodup_numbers_iff, size]
    decide
  · rw [creates.zero_mem_numbers_iff rfl, size]
    decide
  · have isFirst : 0 < symbols.length := by omega
    have isLast : 2 ^ 32 < symbols.length := by omega
    have round : 0 ≡ 2 ^ 32 [MOD 2 ^ 32] := (Nat.mod_self (2 ^ 32)).symm
    have again : symbols[0] = symbols[2 ^ 32] := by
      refine Symbol.eq_of_number_eq
        ((creates.number_eq_iff isFirst isLast).2 round) ?_
      rw [described _ (List.getElem_mem isFirst),
        described _ (List.getElem_mem isLast)]
    refine ⟨symbols[0], List.getElem?_eq_getElem isFirst, ?_⟩
    rw [again]
    exact List.getElem?_eq_getElem isLast

end Program
end ClassLowering
