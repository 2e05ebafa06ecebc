import Chip8.CommandLine.Parse

/-!
# Plain command lines

A number that is printed in decimal digits is read again, if it does not have too many of them. So a
command line that names a program and gives a seed, a frame length and a number of steps is
understood, and asks for just these.
-/

namespace Chip8

namespace Text

variable {cs : List Char}

/-! ## Printed numbers -/

theorem digitValue?_of_isDigit {c : Char} (h : c.isDigit = true) :
    digitValue? c = some (c.toNat - 48) := by
  have hc : 48 ≤ c.toNat ∧ c.toNat < 58 := by
    simp only [Char.isDigit, Bool.and_eq_true, decide_eq_true_eq] at h
    exact ⟨h.1, Nat.lt_succ_of_le h.2⟩
  rw [digitValue?, digitZeros, List.find?_cons_of_pos (by simp [hc.1, hc.2])]
  rfl

/-- Digits without underscores between them are read one by one. -/
theorem digitValues?_of_digits (hne : cs ≠ []) (h : ∀ c ∈ cs, c.isDigit = true) :
    digitValues? cs = some (cs.map (·.toNat - 48)) := by
  induction cs with
  | nil => exact absurd rfl hne
  | cons c cs ih =>
    have hc := digitValue?_of_isDigit (h c List.mem_cons_self)
    cases cs with
    | nil => rw [digitValues?, hc]; rfl
    | cons d cs =>
      have hd : d ≠ '_' := by
        rintro rfl
        exact absurd (h '_' (by simp)) (by decide)
      have hcs := ih (List.cons_ne_nil d cs) fun c hc => h c (List.mem_cons_of_mem _ hc)
      rw [digitValues?, hc, hcs]
      · rfl
      · exact List.cons_ne_nil d cs
      · rintro _ ⟨⟩
        exact hd rfl

theorem isBlank_of_isDigit {c : Char} (h : c.isDigit = true) : isBlank c = false := by
  simp only [Char.isDigit, Bool.and_eq_true, decide_eq_true_eq] at h
  have hc : 48 ≤ c.toNat ∧ c.toNat ≤ 57 := h
  simp only [isBlank, Bool.or_eq_false_iff, Bool.and_eq_false_iff, decide_eq_false_iff_not,
    beq_eq_false_iff_ne]
  omega

theorem trimBlanks_of_digits (h : ∀ c ∈ cs, c.isDigit = true) : trimBlanks cs = cs := by
  have hdrop {ds : List Char} (hds : ∀ c ∈ ds, c.isDigit = true) :
      ds.dropWhile isBlank = ds := by
    cases ds with
    | nil => rfl
    | cons d ds =>
      have hd := isBlank_of_isDigit (hds d List.mem_cons_self)
      rw [List.dropWhile_cons_of_neg (by simp [hd])]
  rw [trimBlanks, hdrop h, hdrop fun c hc => h c (List.mem_reverse.1 hc), List.reverse_reverse]

/-- The number has no more decimal digits than are read. -/
def Readable (n : Nat) : Prop := (toString n).length ≤ maxDigits

/-- A printed number is read again, unless it has too many digits. -/
theorem integer?_toString {n : Nat} (h : Readable n) : integer? (toString n) = some n := by
  rw [Readable, Nat.toString_eq_ofList_toDigits, String.length_ofList] at h
  have hdigits : ∀ c ∈ Nat.toDigits 10 n, c.isDigit = true :=
    fun c hc => Nat.isDigit_of_mem_toDigits (by decide) (by decide) hc
  have hnatural : natural? (Nat.toDigits 10 n) = some n := by
    rw [natural?, digitValues?_of_digits Nat.toDigits_ne_nil hdigits]
    simp only [List.length_map, if_neg (Nat.not_lt.2 h), List.foldl_map]
    exact congrArg some Nat.ofDigitChars_ten_toDigits
  rw [integer?, Nat.toString_eq_ofList_toDigits, String.toList_ofList,
    trimBlanks_of_digits hdigits]
  split
  · next hsign => exact absurd (hdigits '-' (by simp [hsign])) (by decide)
  · next hsign => exact absurd (hdigits '+' (by simp [hsign])) (by decide)
  · rw [hnatural]
    rfl

end Text

namespace CommandLine

open Text (Readable)

variable {rom : String} {seed frame steps : Nat}

/-! ## Operands -/

def Undashed (text : String) : Prop := text.toList.head? ≠ some '-'

theorem undashed_toString (n : Nat) : Undashed (toString n) := by
  rw [Undashed, Nat.toString_eq_ofList_toDigits, String.toList_ofList]
  intro h
  have hc := Nat.isDigit_of_mem_toDigits (by decide) (by decide) (List.mem_of_head? h)
  exact absurd hc (by decide)

namespace Token

theorem classify_of_undashed {text : String} (h : Undashed text) :
    classify text = .ok (.operand text) := by
  unfold Undashed at h
  unfold classify
  dsimp only
  split
  · next hcs => simp [hcs] at h
  · next hcs => simp [hcs] at h
  · rfl

theorem classifyAll_of_undashed {text : String} {args : List String} {tokens : List Token}
    (h : Undashed text) (hargs : classifyAll args = .ok tokens) :
    classifyAll (text :: args) = .ok (.operand text :: tokens) := by
  have hne : text ≠ "--" := by
    rintro rfl
    exact h (by decide)
  rw [classifyAll, if_neg hne, classify_of_undashed h, hargs]
  rfl

theorem classify_name (f : Flag) : f.name ≠ "--" ∧ classify f.name = .ok (.flag f none) := by
  cases f <;> exact ⟨by decide, rfl⟩

theorem classifyAll_of_flag (f : Flag) {args : List String} {tokens : List Token}
    (hargs : classifyAll args = .ok tokens) :
    classifyAll (f.name :: args) = .ok (.flag f none :: tokens) := by
  obtain ⟨hne, hclassify⟩ := classify_name f
  rw [classifyAll, if_neg hne, hclassify, hargs]
  rfl

end Token

/-! ## Options with their values -/

/-- An option takes a printed number, of which `positive_int` refuses zero only. -/
theorem readInteger_toString (f : Flag) (kind : Number) {n : Nat} (h : Readable n)
    (hkind : kind = .positive → 1 ≤ n) : readInteger f kind (toString n) = .ok n := by
  rw [readInteger, Text.integer?_toString h]
  refine if_neg ?_
  rintro ⟨hpositive, hlt⟩
  have := hkind hpositive
  omega

section

variable {p : Progress} {f : Flag}

theorem finish_operand (h : p.rom = none) (text : String) (f : Flag) (rest : List Token) :
    p.finish (.operand text :: .flag f none :: rest) =
      { p with rom := some text }.finish (.flag f none :: rest) := by
  rw [Progress.finish, Progress.operand, h]
  nofun

theorem finish_of_assign {value : String} {settings : Settings} (hf : f.takesValue = true)
    (h : p.settings.assign f value = .ok settings) (rest : List Token) :
    p.finish (.flag f none :: .operand value :: rest) = { p with settings }.finish rest := by
  have hhelp : f ≠ .help := by
    rintro rfl
    cases hf
  rw [Progress.finish, if_neg hhelp, if_pos hf]
  simp only [h]

theorem finish_of_switch (hhelp : f ≠ .help) (hf : f.takesValue = false) (rest : List Token) :
    p.finish (.flag f none :: rest) = { p with settings := p.settings.switch f }.finish rest := by
  rw [Progress.finish.eq_def p]
  simp only [if_neg hhelp, hf, Bool.false_eq_true, if_false]

theorem finish_nil (h : p.rom = some rom) (hx : p.extras = []) :
    p.finish [] = .ok (.run rom p.settings) := by
  simp only [Progress.finish, h, if_pos hx]

end

/-! ## Plain lines -/

/-- The line for a run in a window, with a seed and a frame length. -/
def windowLine (rom : String) (seed frame : Nat) : List String :=
  [rom, Flag.seed.name, toString seed, Flag.ticksPerFrame.name, toString frame]

/-- The line for a run of some steps without a window. -/
def headlessLine (rom : String) (seed frame steps : Nat) : List String :=
  windowLine rom seed frame ++ [Flag.headless.name, Flag.cycles.name, toString steps]

/-- What a line asks for that begins as a plain one does. -/
theorem parse_windowLine_append (hrom : Undashed rom) (hseed : Readable seed) (h1 : 1 ≤ frame)
    (hframe : Readable frame) {args : List String} {tokens : List Token}
    (hargs : Token.classifyAll args = .ok tokens) :
    parse (windowLine rom seed frame ++ args) =
      Progress.finish { rom, settings := { seed := some seed, ticksPerFrame := some frame } }
        tokens := by
  have htokens : Token.classifyAll (windowLine rom seed frame ++ args) = _ :=
    Token.classifyAll_of_undashed hrom <| Token.classifyAll_of_flag .seed <|
      Token.classifyAll_of_undashed (undashed_toString seed) <|
      Token.classifyAll_of_flag .ticksPerFrame <|
      Token.classifyAll_of_undashed (undashed_toString frame) hargs
  have hs : ({} : Settings).assign .seed (toString seed) = .ok { seed := some seed } := by
    rw [Settings.assign, readInteger_toString .seed .any hseed nofun]
    rfl
  have ht : ({ seed := some seed } : Settings).assign .ticksPerFrame (toString frame) =
      .ok { seed := some seed, ticksPerFrame := some frame } := by
    rw [Settings.assign, readInteger_toString .ticksPerFrame .positive hframe fun _ => h1]
    rfl
  simp only [parse, htokens]
  rw [finish_operand rfl, finish_of_assign (p := { rom }) rfl hs,
    finish_of_assign (p := { rom, settings := _ }) rfl ht]

/-- The plain line of a window, as the parser of `build_parser` reads it. -/
theorem parse_windowLine (hrom : Undashed rom) (hseed : Readable seed) (h1 : 1 ≤ frame)
    (hframe : Readable frame) :
    parse (windowLine rom seed frame) =
      .ok (.run rom { seed := some seed, ticksPerFrame := some frame }) := by
  have hargs : Token.classifyAll [] = .ok [] := rfl
  have h := parse_windowLine_append hrom hseed h1 hframe hargs
  rw [List.append_nil] at h
  rw [h, finish_nil rfl rfl]

theorem parse_headlessLine (hrom : Undashed rom) (hseed : Readable seed) (h1 : 1 ≤ frame)
    (hframe : Readable frame) (hsteps : Readable steps) :
    parse (headlessLine rom seed frame steps) =
      .ok (.run rom
        { seed := some seed, ticksPerFrame := some frame, headless := true,
          cycles := some steps }) := by
  have htokens : Token.classifyAll [Flag.headless.name, Flag.cycles.name, toString steps] = _ :=
    Token.classifyAll_of_flag .headless <| Token.classifyAll_of_flag .cycles <|
      Token.classifyAll_of_undashed (undashed_toString steps) rfl
  have hcycles (s : Settings) : s.assign .cycles (toString steps) =
      .ok { s with cycles := some steps } := by
    rw [Settings.assign, readInteger_toString .cycles .any hsteps nofun]
    rfl
  rw [headlessLine, parse_windowLine_append hrom hseed h1 hframe htokens]
  rw [finish_of_switch (by decide) rfl, finish_of_assign rfl (hcycles _), finish_nil rfl rfl]
  rfl

end CommandLine

end Chip8
