import Mathlib

/-!
# `Launcher.CommandLine` — arguments of a child process on Windows

`LocalFabric::spawn` hands a child its arguments as one command line, each quoted by `quote_windows_argument` and
set off by a space; the child's runtime splits it again. `splitCommandLine` states the rules of the Microsoft C
runtime for the arguments after the program name, and `splitCommandLine_join` that they undo the quoting.

The quoter holds back a run of backslashes until it sees what follows, and so does the splitter. The proof goes
along the argument with the run the quoter holds back (`emit`): what it writes takes the splitter, inside quotes,
from the text read so far to the text with the run and the rest of the argument (`split_emit`).
-/

namespace ComputeFabric

/-- `wchar_t`. -/
abbrev WChar := UInt16

/-- `std::wstring`. -/
abbrev WString := List WChar

namespace CommandLine

def backslash : WChar := 0x5C

def quote : WChar := 0x22

def space : WChar := 0x20

def tab : WChar := 0x09

def nul : WChar := 0

/-! ## Quoting -/

/-- One round of the loop of `quote_windows_argument`: the text so far and the backslashes held back. -/
def quoteChar (acc : WString × Nat) (ch : WChar) : WString × Nat :=
  if ch = backslash then (acc.1, acc.2 + 1)
  else if ch = quote then (acc.1 ++ List.replicate (acc.2 * 2 + 1) backslash ++ [quote], 0)
  else (acc.1 ++ List.replicate acc.2 backslash ++ [ch], 0)

/-- `quote_windows_argument`. -/
def quoteWindowsArgument (argument : WString) : WString :=
  let acc := argument.foldl quoteChar ([quote], 0)
  acc.1 ++ List.replicate (acc.2 * 2) backslash ++ [quote]

/-- The quoted arguments, joined with single spaces. -/
def joinArguments (args : List WString) : WString :=
  [space].intercalate (args.map quoteWindowsArgument)

/-- The command line of `spawn`. -/
def spawnCommandLine (executable : WString) (args : List WString) : WString :=
  args.foldl (fun line arg => line ++ [space] ++ quoteWindowsArgument arg) (quoteWindowsArgument executable)

/-! ## Splitting -/

def isBlank (ch : WChar) : Bool := ch = space || ch = tab

/-- The argument read so far, with backslashes that turned out to be literal. -/
def literal (current : Option WString) (slashes : Nat) : Option WString :=
  if slashes = 0 then current else some (current.getD [] ++ List.replicate slashes backslash)

/-- The rules of the runtime. `slashes` is the run of backslashes just read, `current` the argument that is being
    read, if one is. -/
def split (inQuotes : Bool) (slashes : Nat) (current : Option WString) : WString → List WString
  | [] => (literal current slashes).toList
  | ch :: rest =>
      if ch = backslash then split inQuotes (slashes + 1) current rest
      else if ch = quote then
        let read := current.getD [] ++ List.replicate (slashes / 2) backslash
        if slashes % 2 = 1 then split inQuotes 0 (some (read ++ [quote])) rest
        else split (!inQuotes) 0 (some read) rest
      else if !inQuotes && isBlank ch then (literal current slashes).toList ++ split false 0 none rest
      else split inQuotes 0 (some (current.getD [] ++ List.replicate slashes backslash ++ [ch])) rest

/-- The arguments of a command line, which ends at the first NUL. -/
def splitCommandLine (line : WString) : List WString :=
  split false 0 none (line.takeWhile fun ch => ch ≠ nul)

/-! ## The round trip -/

/-- What the loop still writes for the rest of an argument, with `slashes` backslashes held back. -/
def emit : Nat → WString → WString
  | slashes, [] => List.replicate (slashes * 2) backslash ++ [quote]
  | slashes, ch :: rest =>
      if ch = backslash then emit (slashes + 1) rest
      else if ch = quote then List.replicate (slashes * 2 + 1) backslash ++ quote :: emit 0 rest
      else List.replicate slashes backslash ++ ch :: emit 0 rest

theorem quoteWindowsArgument_eq (argument : WString) : quoteWindowsArgument argument = quote :: emit 0 argument := by
  suffices hloop : ∀ (rest text : WString) (slashes : Nat),
      (rest.foldl quoteChar (text, slashes)).1 ++
          List.replicate ((rest.foldl quoteChar (text, slashes)).2 * 2) backslash ++ [quote] =
        text ++ emit slashes rest from hloop argument [quote] 0
  intro rest
  induction rest with
  | nil => exact fun text slashes => List.append_assoc _ _ _
  | cons ch rest ih =>
      intro text slashes
      rw [List.foldl_cons, emit, quoteChar]
      split_ifs with hslash hquote
      · exact ih text (slashes + 1)
      · rw [ih]
        simp
      · rw [ih]
        simp

/-- A run of backslashes is counted. -/
theorem split_replicate (inQuotes : Bool) (current : Option WString) (rest : WString) (n slashes : Nat) :
    split inQuotes slashes current (List.replicate n backslash ++ rest) =
      split inQuotes (slashes + n) current rest := by
  induction n generalizing slashes with
  | zero => rfl
  | succ n ih =>
      rw [List.replicate_succ, List.cons_append, split, if_pos rfl, ih, Nat.add_assoc, Nat.add_comm 1]

theorem split_quote (inQuotes : Bool) (slashes : Nat) (current : Option WString) (rest : WString) :
    split inQuotes slashes current (quote :: rest) =
      if slashes % 2 = 1 then
        split inQuotes 0 (some (current.getD [] ++ List.replicate (slashes / 2) backslash ++ [quote])) rest
      else split (!inQuotes) 0 (some (current.getD [] ++ List.replicate (slashes / 2) backslash)) rest := by
  rw [split, if_neg (by decide), if_pos rfl]

/-- **One argument.** Inside quotes, the splitter reads what the quoter writes as the argument itself, and leaves
    the quotes behind it. -/
theorem split_emit (argument rest : WString) (slashes : Nat) (text : WString) :
    split true 0 (some text) (emit slashes argument ++ rest) =
      split false 0 (some (text ++ List.replicate slashes backslash ++ argument)) rest := by
  induction argument generalizing slashes text with
  | nil =>
      -- an even run before the closing quote: half of it is literal
      rw [emit, List.append_assoc, split_replicate, List.singleton_append, split_quote, if_neg (by omega)]
      simp
  | cons ch argument ih =>
      rw [emit]
      split_ifs with hslash hquote
      · rw [ih, hslash, List.replicate_succ']
        simp
      · -- an odd run before a quote of the argument: half of it and the quote are literal
        have hhalf : (0 + (slashes * 2 + 1)) / 2 = slashes := by omega
        rw [List.append_assoc, split_replicate, List.cons_append, split_quote, if_pos (by omega), hhalf, ih, hquote]
        simp
      · rw [List.append_assoc, split_replicate, List.cons_append, split, if_neg hslash, if_neg hquote,
          if_neg (by simp), ih]
        simp

/-- A quoted argument between arguments is read whole. -/
theorem split_quoteWindowsArgument (argument rest : WString) :
    split false 0 none (quoteWindowsArgument argument ++ rest) = split false 0 (some argument) rest := by
  rw [quoteWindowsArgument_eq, List.cons_append, split_quote, if_neg (by decide)]
  exact split_emit argument rest 0 []

theorem joinArguments_singleton (argument : WString) :
    joinArguments [argument] = quoteWindowsArgument argument := by
  simp [joinArguments]

theorem joinArguments_cons_cons (argument next : WString) (args : List WString) :
    joinArguments (argument :: next :: args) =
      quoteWindowsArgument argument ++ space :: joinArguments (next :: args) := by
  simp [joinArguments, List.intercalate_cons_cons]

/-- The command line of `spawn` is the program name and the arguments, joined. -/
theorem spawnCommandLine_eq (executable : WString) (args : List WString) :
    spawnCommandLine executable args = joinArguments (executable :: args) := by
  suffices hfold : ∀ (args : List WString) (line : WString) (last : WString),
      args.foldl (fun line arg => line ++ [space] ++ quoteWindowsArgument arg) (line ++ quoteWindowsArgument last) =
        line ++ joinArguments (last :: args) from hfold args [] executable
  intro args
  induction args with
  | nil => exact fun line last => by rw [joinArguments_singleton, List.foldl_nil]
  | cons argument args ih =>
      intro line last
      rw [List.foldl_cons, ih, joinArguments_cons_cons]
      simp

theorem split_joinArguments (args : List WString) : split false 0 none (joinArguments args) = args := by
  induction args with
  | nil => rfl
  | cons argument args ih =>
      cases args with
      | nil =>
          rw [joinArguments_singleton, ← List.append_nil (quoteWindowsArgument argument), split_quoteWindowsArgument]
          rfl
      | cons next args =>
          -- the space is outside the quotes and ends the argument
          rw [joinArguments_cons_cons, split_quoteWindowsArgument, split, if_neg (by decide), if_neg (by decide),
            if_pos (by decide), ih]
          rfl

/-! ## NUL -/

theorem mem_emit {argument : WString} {slashes : Nat} {ch : WChar} (h : ch ∈ emit slashes argument) :
    ch = backslash ∨ ch = quote ∨ ch ∈ argument := by
  induction argument generalizing slashes with
  | nil =>
      rw [emit, List.mem_append, List.mem_singleton] at h
      exact h.imp (List.eq_of_mem_replicate) .inl
  | cons c argument ih =>
      rw [emit] at h
      split_ifs at h
      · exact (ih h).imp_right (Or.imp_right (List.mem_cons_of_mem _))
      · rw [List.mem_append, List.mem_cons] at h
        rcases h with h | h | h
        · exact .inl (List.eq_of_mem_replicate h)
        · exact .inr (.inl h)
        · exact (ih h).imp_right (Or.imp_right (List.mem_cons_of_mem _))
      · rw [List.mem_append, List.mem_cons] at h
        rcases h with h | rfl | h
        · exact .inl (List.eq_of_mem_replicate h)
        · exact .inr (.inr List.mem_cons_self)
        · exact (ih h).imp_right (Or.imp_right (List.mem_cons_of_mem _))

theorem nul_not_mem_quoteWindowsArgument {argument : WString} (h : nul ∉ argument) :
    nul ∉ quoteWindowsArgument argument := by
  rw [quoteWindowsArgument_eq, List.mem_cons]
  rintro (hquote | hemit)
  · exact absurd hquote (by decide)
  · rcases mem_emit hemit with hslash | hquote | harg
    · exact absurd hslash (by decide)
    · exact absurd hquote (by decide)
    · exact h harg

theorem nul_not_mem_joinArguments {args : List WString} (h : ∀ argument ∈ args, nul ∉ argument) :
    nul ∉ joinArguments args := by
  induction args with
  | nil => exact List.not_mem_nil
  | cons argument args ih =>
      have hfirst := nul_not_mem_quoteWindowsArgument (h argument List.mem_cons_self)
      have hrest := ih fun a ha => h a (List.mem_cons_of_mem _ ha)
      cases args with
      | nil =>
          rw [joinArguments_singleton]
          exact hfirst
      | cons next args =>
          rw [joinArguments_cons_cons, List.mem_append, List.mem_cons]
          rintro (hmem | hmem | hmem)
          · exact hfirst hmem
          · exact absurd hmem (by decide)
          · exact hrest hmem

/-- A blank between arguments is skipped. -/
theorem splitCommandLine_space (line : WString) : splitCommandLine (space :: line) = splitCommandLine line := by
  rw [splitCommandLine, List.takeWhile_cons_of_pos (by decide), split, if_neg (by decide), if_neg (by decide),
    if_pos (by decide)]
  rfl

/-- **Quoting round-trips**, and so do the arguments behind the program name in the command line of `spawn`. -/
theorem splitCommandLine_join (args : List WString) (h : ∀ argument ∈ args, nul ∉ argument) :
    splitCommandLine (joinArguments args) = args ∧
      ∀ executable, ∃ rest, spawnCommandLine executable args = quoteWindowsArgument executable ++ rest ∧
        splitCommandLine rest = args := by
  have hwhole : (joinArguments args).takeWhile (fun ch => ch ≠ nul) = joinArguments args := by
    refine List.takeWhile_eq_self_iff.mpr fun ch hch => ?_
    rw [decide_eq_true_iff]
    rintro rfl
    exact nul_not_mem_joinArguments h hch
  have hjoined : splitCommandLine (joinArguments args) = args := by
    rw [splitCommandLine, hwhole, split_joinArguments]
  refine ⟨hjoined, fun executable => ?_⟩
  rw [spawnCommandLine_eq]
  cases args with
  | nil => exact ⟨[], by rw [joinArguments_singleton, List.append_nil], rfl⟩
  | cons argument args =>
      exact ⟨space :: joinArguments (argument :: args), joinArguments_cons_cons executable argument args,
        (splitCommandLine_space _).trans hjoined⟩

/-- An empty argument, a directory with a blank and a trailing backslash, and an argument that ends in a quote. -/
theorem splitCommandLine_three :
    splitCommandLine (joinArguments [[], [0x63, 0x20, backslash], [backslash, quote]]) =
      [[], [0x63, 0x20, backslash], [backslash, quote]] :=
  (splitCommandLine_join _ (by decide)).1

end CommandLine

end ComputeFabric
