import SeedGate.CommandLine.Run
import SeedGate.Proofs.Draws
import SeedGate.Proofs.Limits

/-!
# What `randbytes` delivers

Once its options are read and a configuration is loaded, or replaced by the standard one,
a run is about one draw from the kernel (`Invocation.drawn`), the one after the probe. It is
not made if the configuration is not valid, or if nothing or too much is asked for; if it
is made, it decides alone how the run ends (`Invocation.Drawing`), whatever has become of
the probe. The bytes of the draw are written out as they are, or in digits, which spell them
(`Options.Writes`).

* `delivered_run`: how a run exits, what it draws from the kernel and what it writes out
  (`Delivered`).
-/

namespace SeedGate.CommandLine

open SystemEntropy

namespace Invocation

/-- The probe: a draw of one byte from the kernel as it is at first. -/
def probe (i : Invocation) : Reply (Except Nat Bytes) Kernel Kernel.Draw :=
  Kernel.draw i.stream 1 ⟨i.outcomes, 0⟩

/-- The draw of so many bytes that follows the probe. -/
def drawn (i : Invocation) (n : Nat) : Reply (Except Nat Bytes) Kernel Kernel.Draw :=
  i.probe.state.draw i.stream n

/-- How the drawing of so many bytes under a configuration ends, and what attempts at draws
    it takes. -/
inductive Drawing (i : Invocation) (config : Config) (n : Nat) :
    Ending (Except Fault Bytes) → List Kernel.Draw → Prop
  /-- The configuration is not valid, or does not allow that many bytes. -/
  | refused {fault : Fault} (h : platformMax < config.maxRequestLen ∨ config.maxRequestLen < n) :
      Drawing i config n (.returned (.error fault)) []
  /-- No bytes are asked for. -/
  | empty (hvalid : config.maxRequestLen ≤ platformMax) (h : n = 0) :
      Drawing i config n (.returned (.ok [])) []
  /-- The kernel is asked for the bytes, after the probe. -/
  | drawn (hvalid : config.maxRequestLen ≤ platformMax) (hle : n ≤ config.maxRequestLen)
      (hne : n ≠ 0) :
      Drawing i config n
        (.returned ((i.drawn n).answer.mapError fun errno => .generation (ErrorNumber.name errno)))
        (i.probe.record ++ (i.drawn n).record)

/-- Whatever the configuration and the number of bytes, they are drawn in one of these ways. -/
theorem drawing_draw (i : Invocation) (config : Config) (n : Nat) :
    i.Drawing config n (i.draw config n).ending (draws (i.draw config n).events) := by
  rw [draw, ofConfig_eq]
  by_cases hvalid : config.maxRequestLen ≤ platformMax
  · rw [Config.validate_eq_ok_iff.2 hvalid]
    dsimp only [Except.map]
    by_cases hlt : config.maxRequestLen < n
    · rw [Generator.randomVec_eq, if_pos hlt]
      exact .refused (.inr hlt)
    by_cases hzero : n = 0
    · subst hzero
      rw [Generator.randomVec_eq, if_neg hlt, Bytes.zeros, List.replicate_zero, tryRandom_nil]
      exact .empty hvalid rfl
    · -- This is the only way that leads to the kernel.
      have hle : n ≤ config.maxRequestLen := Nat.not_lt.1 hlt
      obtain ⟨hending, hdraws⟩ :=
        draws_randomVec i.stream hle hzero (Nat.le_refl rounds) (.fresh i.outcomes)
      rw [hending, hdraws]
      exact .drawn hvalid hle hzero
  · cases hinvalid : config.validate with
    | ok => exact absurd (Config.validate_eq_ok_iff.1 hinvalid) hvalid
    | error fault => exact .refused (.inl (Nat.not_le.1 hvalid))

end Invocation

/-- What is written out of bytes: the bytes themselves if they are wanted raw, and otherwise the
    digits that spell them, each of them one byte, and a line feed. -/
def Options.Writes (o : Options) (bytes output : Bytes) : Prop :=
  if o.raw then output = bytes
  else ∃ digits, Hex.Spells digits bytes ∧ output = digits.map (fun c => .ofNat c.toNat) ++ [0x0A]

/-- Bytes are written out in the form that the options ask for. -/
theorem Options.writes_encode (o : Options) (bytes : Bytes) : o.Writes bytes (o.encode bytes) := by
  rw [Writes, encode]
  split
  · rfl
  · have hspells := Hex.spells_encode bytes
    have hascii : ∀ c ∈ Hex.encode bytes ++ ['\n'], c.toNat < 0x80 :=
      List.forall_mem_append.2 ⟨fun c hc => Hex.lt_of_mem_alphabet (hspells.mem_alphabet c hc),
        List.forall_mem_singleton.2 (by decide)⟩
    refine ⟨_, hspells, ?_⟩
    rw [Utf8.encode_of_ascii hascii, List.map_append]
    rfl

/-- What comes of a run that is to deliver as many bytes as the options say, under a
    configuration. -/
structure Delivered (i : Invocation) (o : Options) (config : Config) (outcome : Outcome) :
    Prop where
  success_iff : outcome.exit = 0 ↔
    config.maxRequestLen ≤ platformMax ∧ o.length ≤ config.maxRequestLen ∧
      (o.length = 0 ∨ ∃ bytes, (i.drawn o.length).answer = .ok bytes)
  draws : outcome.draws =
    if platformMax < config.maxRequestLen ∨ config.maxRequestLen < o.length ∨ o.length = 0 then []
    else i.probe.record ++ (i.drawn o.length).record
  failure : outcome.exit ≠ 0 → outcome.output = []
  success : outcome.exit = 0 → ∃ bytes, (i.drawn o.length).answer = .ok bytes ∧
    bytes.length = o.length ∧ o.Writes bytes outcome.output

/-- Where writing succeeds, bytes that were drawn are all that is written out. -/
theorem Invocation.conclude_ok {i : Invocation} (hout : i.outputFull = false) (o : Options)
    (bytes : Bytes) : i.conclude o (.returned (.ok bytes)) = (0, o.encode bytes, []) := by
  rw [Invocation.conclude, hout]
  rfl

theorem delivered_deliverWith {i : Invocation} (hout : i.outputFull = false) (o : Options)
    (loaded : Except Config.Load.Failure Config) :
    Delivered i o (loaded.toOption.getD .standard) (i.deliverWith o loaded) := by
  have hdrawing := i.drawing_draw (loaded.toOption.getD .standard) o.length
  -- Of the drawing only the ending and the attempts are left to be seen.
  rw [Invocation.deliverWith]
  generalize loaded.toOption.getD .standard = config at hdrawing ⊢
  generalize i.draw config o.length = run at hdrawing ⊢
  obtain ⟨ending, t, events⟩ := run
  dsimp only at hdrawing ⊢
  generalize SystemEntropy.draws events = attempts at hdrawing ⊢
  cases hdrawing with
  | refused h =>
    refine ⟨iff_of_false Nat.one_ne_zero (by omega), ?_, fun _ => rfl, nofun⟩
    exact (if_pos (by omega)).symm
  | empty hvalid hzero =>
    have hnothing : (i.drawn o.length).answer = .ok [] := by
      rw [hzero]
      rfl
    rw [Invocation.conclude_ok hout]
    refine ⟨iff_of_true rfl ⟨hvalid, by omega, .inl hzero⟩, ?_, fun hne => absurd rfl hne,
      fun _ => ⟨[], hnothing, hzero.symm, o.writes_encode []⟩⟩
    exact (if_pos (by omega)).symm
  | drawn hvalid hle hne =>
    have hmade : ¬(platformMax < config.maxRequestLen ∨ config.maxRequestLen < o.length ∨
        o.length = 0) := by omega
    cases hanswer : (i.drawn o.length).answer with
    | ok bytes =>
      dsimp only [Except.mapError]
      rw [Invocation.conclude_ok hout]
      exact ⟨iff_of_true rfl ⟨hvalid, hle, .inr ⟨bytes, hanswer⟩⟩, (if_neg hmade).symm,
        fun hne => absurd rfl hne,
        fun _ => ⟨bytes, hanswer, Kernel.length_of_draw_eq_ok hanswer, o.writes_encode bytes⟩⟩
    | error errno =>
      refine ⟨iff_of_false Nat.one_ne_zero ?_, (if_neg hmade).symm, fun _ => rfl, nofun⟩
      rintro ⟨-, -, hzero | ⟨bytes, hbytes⟩⟩
      · exact hne hzero
      · cases hanswer.symm.trans hbytes

/-- With whatever options are understood, in whatever environment and among whatever files,
    and whatever becomes of the draws from the kernel: if writing succeeds, a run delivers
    under the configuration that was loaded, or the standard one in its place; and if loading
    gives up for good, nothing is drawn and nothing written out. -/
theorem delivered_run {i : Invocation} {o : Options}
    (hread : Options.read i.arguments i.environment = .ok o) (hout : i.outputFull = false) :
    (∀ loaded, (Config.load i.files i.directory i.environment).result = .ok loaded →
      Delivered i o (loaded.toOption.getD .standard) (run i)) ∧
    ∀ panic, (Config.load i.files i.directory i.environment).result = .error panic →
      (run i).exit ≠ 0 ∧ (run i).output = [] ∧ (run i).draws = [] := by
  refine ⟨fun loaded hloaded => ?_, fun panic hpanic => ?_⟩
  · rw [run, hread]
    dsimp only
    rw [Invocation.deliver, hloaded]
    exact delivered_deliverWith hout o loaded
  · rw [run, hread]
    dsimp only
    rw [Invocation.deliver, hpanic]
    exact ⟨Nat.succ_ne_zero 100, rfl, rfl⟩

/-- The file says that the limit is negative, which is no limit, and the probe is refused;
    but the draw is interrupted only once, and both bytes are written out: in digits, and as
    they are where a further argument asks for that. -/
theorem delivered_run_after_refused_probe :
    let i : Invocation := {
      arguments := [Utf8.encode "--len".toList, Utf8.encode "2".toList]
      environment := []
      files := ⟨[(["config".toList, "random.toml".toList],
        .file (Utf8.encode "max_request_len = -1".toList))]⟩
      directory := []
      stream := fun i => .ofNat (i + 9)
      outcomes := [5, ErrorNumber.interrupted]
      outputFull := false }
    let plain : Invocation := { i with arguments := i.arguments ++ [Utf8.encode "--raw".toList] }
    Options.read i.arguments i.environment = .ok ⟨2, false⟩ ∧
      Options.read plain.arguments plain.environment = .ok ⟨2, true⟩ ∧
      (∃ failure, (Config.load i.files i.directory i.environment).result = .ok (.error failure)) ∧
      ((run i).exit = 0 ∧ (run i).output = [0x30, 0x39, 0x30, 0x61, 0x0A] ∧
        (run i).draws = [⟨1, some 5⟩, ⟨2, some ErrorNumber.interrupted⟩, ⟨2, none⟩]) ∧
      (run plain).exit = 0 ∧ (run plain).output = [9, 10] ∧ (run plain).draws = (run i).draws := by
  intro i plain
  have hread : Options.read i.arguments i.environment = .ok ⟨2, false⟩ := by decide +kernel
  have hread' : Options.read plain.arguments plain.environment = .ok ⟨2, true⟩ := by
    decide +kernel
  have hfailure : (Config.load i.files i.directory i.environment).result = .ok (.error
      (.misfit (.outOfRange (.integer (-1))) (.file Config.Load.standardPath))) := by
    decide +kernel
  have hdrawn : (i.drawn 2).answer = .ok [9, 10] := rfl
  have hdelivered := (delivered_run hread rfl).1 _ hfailure
  have hdelivered' := (delivered_run hread' rfl).1 _ hfailure
  have hexit : (run i).exit = 0 :=
    hdelivered.success_iff.2 ⟨by decide, by decide, .inr ⟨_, hdrawn⟩⟩
  have hexit' : (run plain).exit = 0 :=
    hdelivered'.success_iff.2 ⟨by decide, by decide, .inr ⟨_, hdrawn⟩⟩
  have houtput : (run i).output = [0x30, 0x39, 0x30, 0x61, 0x0A] := by decide +kernel
  obtain ⟨bytes, hanswer, -, houtput'⟩ := hdelivered'.success hexit'
  obtain rfl : bytes = [9, 10] := Except.ok.inj (hanswer.symm.trans hdrawn)
  exact ⟨hread, hread', ⟨_, hfailure⟩, ⟨hexit, houtput, hdelivered.draws.trans rfl⟩,
    hexit', houtput', hdelivered'.draws.trans hdelivered.draws.symm⟩

end SeedGate.CommandLine
