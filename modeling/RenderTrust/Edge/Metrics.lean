import RenderTrust.Lib.Literals

/-!
# GPU detection of `edgekit/poller/metrics.py`

`nvidia-smi` prints a line for each GPU, with five fields between commas. The code splits the
whole output at the commas, so that the fifth part goes on with the name in the second line.
-/
namespace RenderTrust.Edge
open Lib.Unicode Lib.Literals

structure GpuInfo where
  name : String
  vramTotalMb : ℤ
  vramUsedMb : ℤ
  utilization : Double
  temperature : ℤ
  deriving DecidableEq

structure CpuInfo where
  cores : ℤ

/-- How `subprocess.run` ends. -/
inductive Smi where
  | fileNotFound
  | timeoutExpired
  | completed (returncode : ℤ) (stdout : String)

/-- The values that the parts have; any error is caught. -/
def gpuInfo : List (List Char) → Option GpuInfo
  | name :: total :: used :: utilization :: temperature :: _ => do
      let vramTotalMb ← int total
      let vramUsedMb ← int used
      let utilizationPct ← float utilization
      let temperature ← int temperature
      some ⟨String.ofList name, vramTotalMb, vramUsedMb, utilizationPct.div 100, temperature⟩
  | _ => none

/-- `detect_gpu`. -/
def detectGpu : Smi → Option GpuInfo
  | .fileNotFound => none
  | .timeoutExpired => none
  | .completed returncode stdout =>
      if returncode ≠ 0 then none
      else
        let line := strip stdout.toList
        if line = [] then none else gpuInfo (fields ',' line)

/-- The name without the first of the prefixes it has, and without spaces. -/
def shortName (lower : String → String) (name : String) : String :=
  let name := (lower name).toList
  let prefixes := ["nvidia geforce ".toList, "nvidia ".toList, "geforce ".toList]
  let rest := match prefixes.find? (·.isPrefixOf name) with
    | some first => name.drop first.length
    | none => name
  String.ofList (rest.filter (· ≠ ' '))

/-- `build_capabilities`, with `str.lower` as Unicode defines it. -/
def buildCapabilities (lower : String → String) (gpu : Option GpuInfo) (cpu : CpuInfo) :
    List String :=
  let caps := match gpu with
    | some gpu =>
        ["gpu:" ++ shortName lower gpu.name ++ ":" ++ toString (gpu.vramTotalMb / 1024) ++ "gb"]
    | none => []
  caps ++ ["cpu:" ++ toString cpu.cores ++ "core"]

/-- A line that is well-formed, and the values its fields have. -/
structure Row where
  name : List Char
  total : List Char
  used : List Char
  utilization : List Char
  temperature : List Char
  info : GpuInfo
  plain : ∀ field ∈ [name, total, used, utilization, temperature], ',' ∉ field ∧ '\n' ∉ field
  name_eq : String.ofList (strip name) = info.name
  total_eq : int (strip total) = some info.vramTotalMb
  used_eq : int (strip used) = some info.vramUsedMb
  utilization_eq : (float (strip utilization)).map (·.div 100) = some info.utilization
  temperature_eq : int (strip temperature) = some info.temperature

def Row.line (row : Row) : List Char :=
  [','].intercalate [row.name, row.total, row.used, row.utilization, row.temperature]

/-- What is printed: the lines, the last with a line feed after it or without one. -/
def lines (rows : List Row) (terminated : Bool) : List Char :=
  ['\n'].intercalate (rows.map Row.line) ++ if terminated then ['\n'] else []

def output (rows : List Row) (terminated : Bool) : Smi :=
  .completed 0 (String.ofList (lines rows terminated))

/-- What is printed after the first line. -/
def following (terminated : Bool) : List Row → List Char
  | [] => if terminated then ['\n'] else []
  | second :: rest => '\n' :: lines (second :: rest) terminated

/-- A capability of `build_capabilities` for a GPU. -/
def advertised (caps : List String) : Bool := caps.any fun c => "gpu:".toList.isPrefixOf c.toList

section Lines
variable {first second : Row} {rest : List Row} {terminated : Bool}

theorem Row.line_eq (row : Row) : row.line = row.name ++ ',' :: (row.total ++ ',' :: (row.used ++
    ',' :: (row.utilization ++ ',' :: row.temperature))) := by
  simp [Row.line, List.intercalate]

theorem lines_cons :
    lines (first :: rest) terminated = first.line ++ following terminated rest := by
  cases rest with
  | nil => simp [lines, following, List.intercalate]
  | cons second rest => simp [lines, following, List.intercalate]

/-- The fifth part is what is between the fourth comma and the fifth. -/
theorem fields_lines : fields ',' (lines (first :: rest) terminated) =
    strip first.name :: strip first.total :: strip first.used :: strip first.utilization ::
      fields ',' (first.temperature ++ following terminated rest) := by
  have plain := first.plain
  simp only [List.mem_cons, List.not_mem_nil, or_false, forall_eq_or_imp, forall_eq] at plain
  obtain ⟨⟨name, -⟩, ⟨total, -⟩, ⟨used, -⟩, ⟨utilization, -⟩, -⟩ := plain
  rw [lines_cons, first.line_eq]
  simp only [List.append_assoc, List.cons_append]
  rw [fields_cons name, fields_cons total, fields_cons used, fields_cons utilization]

theorem lines_ne_blank : strip (lines (first :: rest) terminated) ≠ [] := by
  have comma : ',' ∈ lines (first :: rest) terminated := by
    rw [lines_cons, first.line_eq]
    simp
  exact strip_ne_nil comma rfl

/-- The other parts are the fields of the first line. -/
theorem detectGpu_output : detectGpu (output (first :: rest) terminated) =
    ((fields ',' (first.temperature ++ following terminated rest)).head?.bind int).map
      fun temperature => { first.info with temperature } := by
  obtain ⟨pct, read, quotient⟩ := Option.map_eq_some_iff.mp first.utilization_eq
  have comma : isSpace ',' = false := rfl
  have value : detectGpu (output (first :: rest) terminated) =
      gpuInfo (fields ',' (lines (first :: rest) terminated)) := by
    rw [output, detectGpu, String.toList_ofList, if_neg (not_not.mpr rfl)]
    simp only [lines_ne_blank, if_false, fields_strip comma]
  rw [value, fields_lines]
  cases parts : fields ',' (first.temperature ++ following terminated rest) with
  | nil => rfl
  | cons fifth others =>
      rw [gpuInfo, first.total_eq, first.used_eq, read, first.name_eq]
      simp only [Option.bind_eq_bind, Option.bind_some, quotient, List.head?_cons]
      cases int fifth with
      | none => rfl
      | some temperature => rfl

theorem strip_temperature_ne_nil : strip first.temperature ≠ [] := by
  intro empty
  have number := first.temperature_eq
  rw [empty, int_nil] at number
  cases number

/-- The part that should be a temperature goes on with the second line. -/
theorem fifth_eq : (fields ',' (first.temperature ++
    following terminated (second :: rest))).head? =
      some (strip (first.temperature ++ '\n' :: second.name)) := by
  have plain := first.plain first.temperature (by simp)
  have plain' := second.plain second.name (by simp)
  have alone : ',' ∉ first.temperature ++ '\n' :: second.name := by
    simp [plain.1, plain'.1]
  rw [following, lines_cons, second.line_eq]
  simp only [List.append_assoc, List.cons_append]
  rw [← List.cons_append, ← List.append_assoc, fields_cons alone, List.head?_cons]

theorem detectGpu_singleton : detectGpu (output [first] terminated) = some first.info := by
  have white : ∀ c ∈ following terminated [], isSpace c := by
    cases terminated with
    | false => simp [following]
    | true => simp [following, isSpace]
  have comma := (first.plain first.temperature (by simp)).1
  rw [detectGpu_output, fields_append_right rfl white, fields_singleton comma, List.head?_cons,
    Option.bind_some, first.temperature_eq, Option.map_some]

theorem detectGpu_blank (blank : strip second.name = []) :
    detectGpu (output (first :: second :: rest) terminated) = some first.info := by
  have white : ∀ c ∈ '\n' :: second.name, isSpace c := by
    intro c member
    rcases List.mem_cons.mp member with rfl | later
    · rfl
    · exact blank_of_strip blank c later
  rw [detectGpu_output, fifth_eq, strip_append_right white, Option.bind_some, first.temperature_eq,
    Option.map_some]

/-- A node with two GPUs or more has none. -/
theorem detectGpu_none (black : strip second.name ≠ []) :
    detectGpu (output (first :: second :: rest) terminated) = none := by
  have feed : '\n' ∈ strip (first.temperature ++ '\n' :: second.name) :=
    mem_strip_between strip_temperature_ne_nil black
  rw [detectGpu_output, fifth_eq, Option.bind_some, int_eq_none (by decide) feed, Option.map_none]

end Lines

section Capabilities
variable {lower : String → String} {cpu : CpuInfo}

theorem advertised_iff {gpu : Option GpuInfo} :
    advertised (buildCapabilities lower gpu cpu) ↔ gpu.isSome := by
  cases gpu with
  | none => simp [advertised, buildCapabilities]
  | some gpu => simp [advertised, buildCapabilities]

/-- There is a capability for the GPU if and only if there is one line, or no name stands in the
second. -/
theorem detectGpu_iff (lower : String → String) (cpu : CpuInfo) (first : Row) (rest : List Row)
    (terminated : Bool) :
    (detectGpu (output (first :: rest) terminated) = some first.info ∧
      advertised (buildCapabilities lower (detectGpu (output (first :: rest) terminated)) cpu)) ↔
        ∀ second ∈ rest.head?, strip second.name = [] := by
  rw [advertised_iff]
  cases rest with
  | nil => simp [detectGpu_singleton]
  | cons second rest =>
      by_cases blank : strip second.name = []
      · simp [detectGpu_blank blank, blank]
      · simp [detectGpu_none blank, blank]

end Capabilities

def rtx4090 : Row where
  name := "NVIDIA GeForce RTX 4090".toList
  total := " 24576".toList
  used := " 8192".toList
  utilization := " 75".toList
  temperature := " 62".toList
  info := ⟨"NVIDIA GeForce RTX 4090", 24576, 8192, .finite false (3 / 4), 62⟩
  plain := by decide +kernel
  name_eq := by decide +kernel
  total_eq := by decide +kernel
  used_eq := by decide +kernel
  utilization_eq := by decide +kernel
  temperature_eq := by decide +kernel

example : buildCapabilities (String.map Char.toLower) (some rtx4090.info) ⟨32⟩ =
    ["gpu:rtx4090:24gb", "cpu:32core"] := by decide +kernel

/-- Two cards, and a node with a CPU only. -/
theorem two_cards : output [rtx4090, rtx4090] true = .completed 0
      ("NVIDIA GeForce RTX 4090, 24576, 8192, 75, 62\n" ++
        "NVIDIA GeForce RTX 4090, 24576, 8192, 75, 62\n") ∧
    detectGpu (output [rtx4090, rtx4090] true) = none ∧
    buildCapabilities (String.map Char.toLower) (detectGpu (output [rtx4090, rtx4090] true)) ⟨32⟩ =
      ["cpu:32core"] := by
  have unknown : detectGpu (output [rtx4090, rtx4090] true) = none := by decide +kernel
  refine ⟨?_, unknown, ?_⟩
  · rw [output]
    exact congrArg (Smi.completed 0) (by decide +kernel)
  · rw [unknown]
    decide +kernel

end RenderTrust.Edge
