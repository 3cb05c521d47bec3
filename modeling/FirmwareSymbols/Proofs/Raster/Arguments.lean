import FirmwareSymbols.Proofs.Text.Digits
import FirmwareSymbols.Raster.Job

/-!
# What the arguments of the rasterizer tell

Each part of a job has its own arguments, and they determine it: the layer by how many there are and by what follows
`--export-id=` (`layerArguments_inj`), the size by its option and its number or resolution (`sizeArgument_inj`). A layer
adds two arguments and a background one, so the number of arguments tells which parts are there. The paths come last.
Hence equal arguments come from one job (`arguments_eq_iff`), whatever the texts in them look like.
-/

namespace FirmwareSymbols.Raster

/-- Different resolutions have different texts. -/
theorem Dpi.text_inj {d d' : Dpi} : d.text = d'.text ↔ d = d' := by
  cases d <;> cases d' <;> decide

namespace Job

variable {job job' : Job} {svgText svgText' : String}

/-! ### The arguments of each part -/

theorem length_layerArguments : job.layerArguments.length = if job.layer.isSome then 2 else 0 := by
  unfold layerArguments
  cases job.layer <;> rfl

theorem length_backgroundArguments :
    job.backgroundArguments.length = if job.background = .white then 1 else 0 := by
  unfold backgroundArguments
  cases job.background <;> rfl

theorem layerArguments_inj : job.layerArguments = job'.layerArguments ↔ job.layer = job'.layer := by
  unfold layerArguments
  cases job.layer <;> cases job'.layer <;> simp

theorem backgroundArguments_inj :
    job.backgroundArguments = job'.backgroundArguments ↔ job.background = job'.background := by
  unfold backgroundArguments
  cases job.background <;> cases job'.background <;> simp

/-- A number is written in decimal digits, which determine it. -/
theorem toString_toNat_inj {n n' : UInt32} : toString n.toNat = toString n'.toNat ↔ n = n' := by
  constructor
  · intro h
    have hdigits := congrArg (fun s => Text.digitsValue s.toList) h
    simp only [Nat.toString_eq_ofList_toDigits, String.toList_ofList, Text.digitsValue_toDigits] at hdigits
    exact UInt32.toNat_inj.1 hdigits
  · rintro rfl
    rfl

/-- An automatic size tells the resolution, another size the height. -/
theorem sizeArgument_inj : job.sizeArgument svgText = job'.sizeArgument svgText' ↔
    job.size = job'.size ∧ (job.size = .auto → dpiOf svgText = dpiOf svgText') := by
  -- the options differ in their tenth character
  have hoption (s t : String) : "--export-dpi=" ++ s ≠ "--export-height=" ++ t := by
    intro h
    have hchar := congrArg (fun s => s.toList[9]?) h
    simp at hchar
  unfold sizeArgument
  cases job.size with
  | auto =>
    cases job'.size with
    | auto => simp [Dpi.text_inj]
    | height pixels => simpa using hoption _ _
  | height pixels =>
    cases job'.size with
    | auto => simpa using (hoption _ _).symm
    | height pixels' =>
      rw [String.append_right_inj, toString_toNat_inj]
      simp

/-! ### All arguments -/

theorem arguments_eq (job : Job) (svg png : Path) (svgText : String) :
    job.arguments svg png svgText =
      ("--export-type=png" :: job.layerArguments ++
        ["--export-png-use-dithering=false", job.sizeArgument svgText] ++ job.backgroundArguments) ++
          ["--export-filename=" ++ png.text, svg.text] := by
  simp [arguments]

/-- A layer has two arguments, so the background shows in whether their number is odd. -/
theorem length_backgroundArguments_eq_mod (job : Job) :
    job.backgroundArguments.length = (job.layerArguments.length + job.backgroundArguments.length) % 2 := by
  rw [length_layerArguments, length_backgroundArguments]
  split <;> split <;> rfl

/-- Equal arguments come from equal parts. -/
theorem parts_of_arguments_eq {svg svg' png png' : Path}
    (h : job.arguments svg png svgText = job'.arguments svg' png' svgText') :
    svg = svg' ∧ png = png' ∧ job.layerArguments = job'.layerArguments ∧
      job.sizeArgument svgText = job'.sizeArgument svgText' ∧
        job.backgroundArguments = job'.backgroundArguments := by
  rw [arguments_eq, arguments_eq] at h
  -- the paths are at the end, the other parts are told apart by their lengths
  obtain ⟨hfront, hpaths⟩ := List.append_inj' h rfl
  have hlength := congrArg List.length hfront
  simp only [List.length_append, List.length_cons, List.length_nil] at hlength
  have hodd := length_backgroundArguments_eq_mod job
  have hodd' := length_backgroundArguments_eq_mod job'
  obtain ⟨hfront, hbackground⟩ := List.append_inj' hfront (by omega)
  obtain ⟨hlayer, hsize⟩ := List.append_inj' hfront rfl
  have hpng : png.text = png'.text ∧ svg.text = svg'.text := by simpa using hpaths
  have hsize : job.sizeArgument svgText = job'.sizeArgument svgText' := by simpa using hsize
  exact ⟨congrArg Path.mk hpng.2, congrArg Path.mk hpng.1, (List.cons.inj hlayer).2, hsize, hbackground⟩

/-- Arguments determine their job: the paths, the background, the layer and the size are the same if all arguments are,
and an automatic size has the same resolution. The paths come last, and a layer adds two arguments behind the first. -/
theorem arguments_eq_iff (job job' : Job) (svg svg' png png' : Path) (svgText svgText' : String) :
    (job.arguments svg png svgText = job'.arguments svg' png' svgText' ↔
      svg = svg' ∧ png = png' ∧ job.background = job'.background ∧ job.layer = job'.layer ∧ job.size = job'.size ∧
        (job.size = .auto → dpiOf svgText = dpiOf svgText')) ∧
    (∃ front, job.arguments svg png svgText = front ++ ["--export-filename=" ++ png.text, svg.text]) ∧
    ∃ first rest, { job with layer := none }.arguments svg png svgText = first :: rest ∧
      ∀ layer, { job with layer := some layer }.arguments svg png svgText =
        first :: ("--export-id=" ++ layer) :: "--export-id-only" :: rest := by
  refine ⟨⟨fun h => ?_, ?_⟩, ⟨_, arguments_eq job svg png svgText⟩, ⟨_, _, rfl, fun layer => rfl⟩⟩
  · obtain ⟨hsvg, hpng, hlayer, hsize, hbackground⟩ := parts_of_arguments_eq h
    obtain ⟨hsize, hdpi⟩ := sizeArgument_inj.1 hsize
    exact ⟨hsvg, hpng, backgroundArguments_inj.1 hbackground, layerArguments_inj.1 hlayer, hsize, hdpi⟩
  · rintro ⟨rfl, rfl, hbackground, hlayer, hsize, hdpi⟩
    rw [arguments, arguments, layerArguments_inj.2 hlayer, sizeArgument_inj.2 ⟨hsize, hdpi⟩,
      backgroundArguments_inj.2 hbackground]

end Job

end FirmwareSymbols.Raster
