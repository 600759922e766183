import SeedGate.Proofs.Deliveries

/-!
# Output in digits and as it is

Bytes are written out as hexadecimal digits and a line feed, or as they are. Which form is
asked for comes into play only when the draw has ended (`run_of_config?`), so that it has no
part in what is drawn.

* `run_digits_plain`: two runs under one configuration that differ in the form of their
  output alone (`Invocation.Paired`) make the same draws and exit alike, and the digits
  that the one writes out spell what the other does.
-/

namespace SeedGate.CommandLine

open SystemEntropy

/-! ## Runs under a configuration -/

namespace Invocation

variable {i : Invocation} {o : Options}

/-- The configuration to deliver under: what is loaded, or else the standard one; none if
    loading gives up for good. -/
def config? (i : Invocation) : Option Config :=
  match (Config.load i.files i.directory i.environment).result with
  | .ok loaded => some (loaded.toOption.getD .standard)
  | .error _ => none

/-- A run succeeds exactly if bytes are drawn and there is room for them. -/
theorem conclude_eq_zero_iff {ending : Ending (Except Fault Bytes)} :
    (i.conclude o ending).1 = 0 ↔
      ∃ bytes, ending = .returned (.ok bytes) ∧ (i.outputFull = false ∨ o.encode bytes = []) := by
  cases ending with
  | returned result =>
    cases result with
    | ok bytes =>
      cases hfull : i.outputFull <;> cases hencode : o.encode bytes <;>
        simp [conclude, hfull, hencode]
    | error fault => simp [conclude]
  | panicked p => simp [conclude]
  | unfinished => simp [conclude]

/-- What has been drawn is as long as was asked for. -/
theorem Drawing.length_eq {config : Config} {n : Nat} {bytes : Bytes}
    {ending : Ending (Except Fault Bytes)} {attempts : List Kernel.Draw}
    (h : i.Drawing config n ending attempts) (hending : ending = .returned (.ok bytes)) :
    bytes.length = n := by
  cases h with
  | refused => cases hending
  | empty _ hzero =>
    cases hending
    exact hzero.symm
  | drawn =>
    cases hanswer : (i.drawn n).answer with
    | ok drawn =>
      rw [hanswer] at hending
      cases hending
      exact Kernel.length_of_draw_eq_ok hanswer
    | error errno =>
      rw [hanswer] at hending
      cases hending

/-- The draw of a run that succeeds is that of the generator of its configuration. -/
theorem exists_generator_of_draw {config : Config} {n : Nat} {bytes : Bytes}
    (h : (i.draw config n).ending = .returned (.ok bytes)) :
    ∃ g, Generator.ofConfig (source i.stream) config = .ok g ∧
      (g.randomVec rounds n (.fresh i.outcomes)).ending = .returned (.ok bytes) := by
  rw [draw] at h
  cases hmade : Generator.ofConfig (source i.stream) config with
  | ok g =>
    rw [hmade] at h
    exact ⟨g, rfl, h⟩
  | error fault =>
    rw [hmade] at h
    cases h

end Invocation

/-- A run draws under its configuration, and only then is the form of the output of
    concern. -/
theorem run_of_config? {i : Invocation} {o : Options} {config : Config}
    (hread : Options.read i.arguments i.environment = .ok o) (hconfig : i.config? = some config) :
    let drawn := i.draw config o.length
    (run i).exit = (i.conclude o drawn.ending).1 ∧
      (run i).output = (i.conclude o drawn.ending).2.1 ∧ (run i).draws = draws drawn.events := by
  rw [Invocation.config?] at hconfig
  cases hloaded : (Config.load i.files i.directory i.environment).result with
  | ok loaded =>
    rw [hloaded] at hconfig
    obtain rfl := Option.some.inj hconfig
    have hrun : run i = i.deliverWith o loaded := by
      simp only [run, hread, Invocation.deliver, hloaded]
    rw [hrun]
    exact ⟨rfl, rfl, rfl⟩
  | error panic =>
    rw [hloaded] at hconfig
    cases hconfig

/-- Without a configuration nothing is drawn or written out, and the run fails. -/
theorem run_of_config?_eq_none {i : Invocation} {o : Options}
    (hread : Options.read i.arguments i.environment = .ok o) (hconfig : i.config? = none) :
    (run i).exit = 101 ∧ (run i).output = [] ∧ (run i).draws = [] := by
  rw [Invocation.config?] at hconfig
  cases hloaded : (Config.load i.files i.directory i.environment).result with
  | ok loaded =>
    rw [hloaded] at hconfig
    cases hconfig
  | error panic =>
    simp [run, hread, Invocation.deliver, hloaded]

/-! ## Two forms of output -/

/-- Both are to deliver as many bytes under the same configuration, over kernels that do
    the same; but the first in digits, and the second as they are. -/
structure Invocation.Paired (digits plain : Invocation) (n : Nat) : Prop where
  read_digits : Options.read digits.arguments digits.environment = .ok ⟨n, false⟩
  read_plain : Options.read plain.arguments plain.environment = .ok ⟨n, true⟩
  config : plain.config? = digits.config?
  stream : plain.stream = digits.stream
  outcomes : plain.outcomes = digits.outcomes
  outputFull : plain.outputFull = digits.outputFull

/-- The draw is the same for both. -/
theorem Invocation.Paired.draw_eq {digits plain : Invocation} {n : Nat}
    (h : digits.Paired plain n) (config : Config) : plain.draw config n = digits.draw config n := by
  rw [draw, draw, h.stream, h.outcomes]

/-- What two runs come to that differ in the form of their output. -/
structure Equivalent (i : Invocation) (n : Nat) (digits plain : Outcome) : Prop where
  draws : plain.draws = digits.draws
  exit : i.outputFull = false → plain.exit = digits.exit
  success : digits.exit = 0 → plain.exit = 0 ∧ plain.output.length = n ∧
    (∃ text, digits.output = Utf8.encode (text ++ ['\n']) ∧ Hex.Spells text plain.output) ∧
    ∃ config g, i.config? = some config ∧ Generator.ofConfig (source i.stream) config = .ok g ∧
      (g.randomVec rounds n (.fresh i.outcomes)).ending = .returned (.ok plain.output)

/-- In digits and as they are, the same bytes are written out, those that the generator of
    the configuration returns; and whatever the bytes, the digits in which they are written
    out by default spell them. -/
theorem run_digits_plain {digits plain : Invocation} {n : Nat} (h : digits.Paired plain n) :
    Equivalent digits n (run digits) (run plain) ∧
      ∀ bytes, ∃ text, Options.encode ⟨n, false⟩ bytes = Utf8.encode (text ++ ['\n']) ∧
        Hex.Spells text bytes := by
  refine ⟨?_, fun bytes => ⟨Hex.encode bytes, rfl, Hex.spells_encode bytes⟩⟩
  cases hconfig : digits.config? with
  | none =>
    obtain ⟨hexit, -, hdraws⟩ := run_of_config?_eq_none h.read_digits hconfig
    obtain ⟨hexit', -, hdraws'⟩ := run_of_config?_eq_none h.read_plain (h.config.trans hconfig)
    refine ⟨hdraws'.trans hdraws.symm, fun _ => hexit'.trans hexit.symm, fun hzero => ?_⟩
    cases hexit.symm.trans hzero
  | some config =>
    obtain ⟨hexit, houtput, hdraws⟩ := run_of_config? h.read_digits hconfig
    obtain ⟨hexit', houtput', hdraws'⟩ := run_of_config? h.read_plain (h.config.trans hconfig)
    rw [h.draw_eq] at hexit' houtput' hdraws'
    refine ⟨hdraws'.trans hdraws.symm, fun hroom => ?_, fun hzero => ?_⟩
    · -- With room for the output, the draw alone decides.
      have hroom' : plain.outputFull = false := h.outputFull.trans hroom
      rw [hexit, hexit']
      cases (digits.draw config n).ending with
      | returned result =>
        cases result with
        | ok bytes => rw [Invocation.conclude_ok hroom, Invocation.conclude_ok hroom']
        | error fault => rfl
      | panicked p => rfl
      | unfinished => rfl
    · obtain ⟨bytes, hending, hroom⟩ := Invocation.conclude_eq_zero_iff.1 (hexit.symm.trans hzero)
      -- There is a line feed at least to be written out, so that there was room.
      have hroom : digits.outputFull = false := by
        refine hroom.resolve_right fun hnothing => ?_
        simp [Options.encode, Utf8.encode, String.utf8EncodeChar] at hnothing
      rw [hending, Invocation.conclude_ok hroom] at houtput
      rw [hending, Invocation.conclude_ok (h.outputFull.trans hroom)] at hexit' houtput'
      obtain rfl : (run plain).output = bytes := houtput'
      exact ⟨hexit', (digits.drawing_draw config n).length_eq hending,
        ⟨_, houtput, Hex.spells_encode _⟩,
        config, (Invocation.exists_generator_of_draw hending).imp fun g hg => ⟨hconfig, hg⟩⟩

/-- The limit is set by a file here and by a variable there, the number of bytes by an
    argument and by a variable; and the probe is refused. -/
theorem run_digits_plain_three :
    let digits : Invocation := {
      arguments := [Utf8.encode "-n3".toList]
      environment := []
      files := ⟨[(["config".toList, "random.toml".toList],
        .file (Utf8.encode "max_request_len = 3".toList))]⟩
      directory := []
      stream := fun i => .ofNat (i + 14)
      outcomes := [5]
      outputFull := false }
    let plain : Invocation := { digits with
      arguments := [Utf8.encode "--raw".toList]
      environment := [⟨"RANDBYTES_LEN".toList, .text "3".toList⟩,
        ⟨"RANDOM_MAX_REQUEST_LEN".toList, .text "3".toList⟩]
      files := ⟨[]⟩ }
    digits.Paired plain 3 ∧ (run plain).exit = 0 ∧ (run plain).output = [14, 15, 16] ∧
      (run plain).draws = (run digits).draws ∧
      ∃ text, (run digits).output = Utf8.encode (text ++ ['\n']) ∧
        Hex.Spells text [14, 15, 16] := by
  intro digits plain
  have hpaired : digits.Paired plain 3 :=
    ⟨by decide +kernel, by decide +kernel, by decide +kernel, rfl, rfl, rfl⟩
  have hexit : (run digits).exit = 0 := by decide +kernel
  have houtput : (run plain).output = [14, 15, 16] := by decide +kernel
  obtain ⟨hequivalent, -⟩ := run_digits_plain hpaired
  obtain ⟨hsuccess, -, htext, -⟩ := hequivalent.success hexit
  rw [houtput] at htext
  exact ⟨hpaired, hsuccess, houtput, hequivalent.draws, htext⟩

end SeedGate.CommandLine
