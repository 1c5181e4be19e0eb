import CrossFlags.Json.Decode
import CrossFlags.Proofs.Json.Grammar
import CrossFlags.Proofs.OptionFile.Number
import CrossFlags.Render

/-!
# Printed resolutions read back

**The JSON of a resolution is well-formed, and whoever decodes it has the resolution**
(`Resolution.render_json_reads_back`), whatever characters its paths, flags and defines have. There
are two layers. The layout is one of the texts that the grammar allows for a document
(`valueText_layout`), by recursion over the document as it is laid out; and decoding undoes encoding
(`Resolution.ofJson?_toJson`), one lemma for each kind of value. A text spells one document, so it
does not matter which reader has found it.
-/

set_option autoImplicit false

namespace CrossFlags

namespace Json

open Text (pieced_flatMap)

/-! ## The layout is one of a document's texts -/

/-- The characters that are escaped by a letter. -/
def lettered : List Char := ['"', '\\', '\n', '\r', '\t', '\x08', '\x0c']

theorem spells_escaped (c : Char) : Spells c (escaped c) := by
  by_cases hc : c ∈ lettered
  · simp only [lettered, List.mem_cons, List.not_mem_nil, or_false] at hc
    rcases hc with rfl | rfl | rfl | rfl | rfl | rfl | rfl
    all_goals exact .letter rfl
  · simp only [lettered, List.mem_cons, List.not_mem_nil, or_false, not_or] at hc
    obtain ⟨hquote, hescape, hline, hreturn, htab, hback, hfeed⟩ := hc
    simp only [escaped, hquote, hescape, hline, hreturn, htab, hback, hfeed, if_false]
    split
    · rename_i hlow
      have hhigh : hexDigit (c.toNat / 16) = Nat.digitChar (c.toNat / 16) :=
        congrArg Nat.digitChar (Nat.mod_eq_of_lt (by omega))
      rw [hhigh]
      exact .code (OptionFile.codePoint?_of_lt (by omega))
    · rename_i hlow
      refine .itself ?_
      simp only [isPlain, Bool.and_eq_true, decide_eq_true_eq, bne_iff_ne]
      exact ⟨⟨Nat.not_lt.mp hlow, hquote⟩, hescape⟩

theorem stringText_quoted (s : String) : StringText s (quoted s) :=
  .mk (pieced_flatMap spells_escaped s.toList)

theorem gap_newline (depth : Nat) : Gap (newline depth) := by
  intro c hc
  rcases List.mem_cons.mp hc with rfl | hspace
  · rfl
  · rw [List.eq_of_mem_replicate hspace]
    rfl

theorem gap_nil : Gap [] := List.forall_mem_nil _

theorem gap_space : Gap [' '] := List.forall_mem_singleton.mpr rfl

mutual

theorem valueText_layout (depth : Nat) (json : Json) : ValueText json (layout depth json) := by
  cases json with
  | bool b =>
    cases b with
    | true => exact .bool true
    | false => exact .bool false
  | string s => exact .string (stringText_quoted s)
  | array items =>
    cases items with
    | nil => exact .emptyArray gap_nil
    | cons item rest =>
      have htext := ValueText.array (gap_newline (depth + 1)) (valueText_layout (depth + 1) item)
        (itemsText_layoutItems depth rest)
      simpa only [layout, List.cons_append, List.append_assoc] using htext
  | object fields =>
    cases fields with
    | nil => exact .emptyObject gap_nil
    | cons field rest =>
      have htext := ValueText.object (gap_newline (depth + 1))
        (fieldText_layoutField (depth + 1) field) (fieldsText_layoutFields depth rest)
      simpa only [layout, List.cons_append, List.append_assoc] using htext

theorem itemsText_layoutItems (depth : Nat) (items : List Json) :
    ItemsText items (layoutItems depth items) := by
  cases items with
  | nil => exact .close (gap_newline depth)
  | cons item rest =>
    have htext := ItemsText.more gap_nil (gap_newline (depth + 1))
      (valueText_layout (depth + 1) item) (itemsText_layoutItems depth rest)
    simpa only [layoutItems, List.nil_append, List.cons_append, List.append_assoc] using htext

theorem fieldText_layoutField (depth : Nat) (field : String × Json) :
    FieldText field (layoutField depth field) := by
  obtain ⟨name, value⟩ := field
  have htext := FieldText.mk (stringText_quoted name) gap_nil gap_space
    (valueText_layout depth value)
  simpa only [layoutField, List.nil_append, List.cons_append, List.append_assoc] using htext

theorem fieldsText_layoutFields (depth : Nat) (fields : List (String × Json)) :
    FieldsText fields (layoutFields depth fields) := by
  cases fields with
  | nil => exact .close (gap_newline depth)
  | cons field rest =>
    have htext := FieldsText.more gap_nil (gap_newline (depth + 1))
      (fieldText_layoutField (depth + 1) field) (fieldsText_layoutFields depth rest)
    simpa only [layoutFields, List.nil_append, List.cons_append, List.append_assoc] using htext

end

/-- The layout is one of the texts of a document. -/
theorem textOf_render (json : Json) : TextOf json json.render := by
  have htext := TextOf.mk gap_nil (valueText_layout 0 json) gap_nil
  unfold render
  simpa only [List.nil_append, List.append_nil] using htext

end Json

/-! ## Decoding undoes encoding -/

section Decoding

open Json

theorem listAt?_of_field? {α : Type} {decode : Json → Option α} {encode : α → Json} {json : Json}
    {name : String} {as : List α} (hdecode : ∀ a, decode (encode a) = some a)
    (hfield : json.field? name = some (.array (as.map encode))) :
    json.listAt? decode name = some as := by
  have hitems : (as.map encode).mapM decode = some as := by
    have hpure : decode ∘ encode = fun a => pure (id a) := funext hdecode
    rw [List.mapM_map, hpure, List.mapM_pure, List.map_id]
    rfl
  unfold listAt?
  rw [hfield]
  exact hitems

theorem listAt?_string?_of_field? {json : Json} {name : String} {texts : List String}
    (hfield : json.field? name = some (.strings texts)) :
    json.listAt? string? name = some texts :=
  listAt?_of_field? (fun _ => rfl) hfield

@[simp] theorem Sources.ofJson?_toJson (sources : Sources) :
    ofJson? sources.toJson = some sources := by
  have hsource (lib : Library) : (do Source.ofName? (← sources.toJson.stringAt? lib.name)) =
      some (sources.get lib) := by
    have hfield : sources.toJson.stringAt? lib.name = some (sources.get lib).name := by
      cases lib <;> rfl
    rw [hfield]
    exact Source.ofName?_name _
  unfold ofJson?
  simp only [hsource, Option.isSome_some, List.all_eq_true, implies_true, if_true,
    Option.getD_some]

@[simp] theorem Options.ofJson?_toJson (options : Options) :
    ofJson? options.toJson = some options := by
  simp [ofJson?, toJson, stringAt?, field?, string?, bool?]

@[simp] theorem Query.ofJson?_toJson (query : Query) : ofJson? query.toJson = some query := by
  have hlibrary : query.toJson.stringAt? "library" = some query.library.name := rfl
  have hpackages : query.toJson.listAt? string? "packages" = some query.packages :=
    listAt?_string?_of_field? rfl
  unfold ofJson?
  rw [hlibrary, hpackages]
  simp

@[simp] theorem FlagSet.ofJson?_toJson (flags : FlagSet) : ofJson? flags.toJson = some flags := by
  have hdefines : flags.toJson.listAt? string? "defines" = some flags.defines :=
    listAt?_string?_of_field? rfl
  have hcompile : flags.toJson.listAt? string? "compile_flags" = some flags.compileFlags :=
    listAt?_string?_of_field? rfl
  have hc : flags.toJson.listAt? string? "c_flags" = some flags.cFlags :=
    listAt?_string?_of_field? rfl
  have hlink : flags.toJson.listAt? string? "link_flags" = some flags.linkFlags :=
    listAt?_string?_of_field? rfl
  have hlibraries : flags.toJson.listAt? string? "link_libraries" = some flags.linkLibraries :=
    listAt?_string?_of_field? rfl
  have hdiscovery : flags.toJson.listAt? Query.ofJson? "discovery" = some flags.discovery :=
    listAt?_of_field? Query.ofJson?_toJson rfl
  unfold ofJson?
  rw [hdefines, hcompile, hc, hlink, hlibraries, hdiscovery]
  rfl

@[simp] theorem Resolution.ofJson?_toJson (resolution : Resolution) :
    ofJson? resolution.toJson = some resolution := by
  have hoptions : resolution.toJson.field? "options" = some resolution.options.toJson := rfl
  have hflags : resolution.toJson.field? "flags" = some resolution.flags.toJson := rfl
  unfold ofJson?
  rw [hoptions, hflags]
  simp

end Decoding

namespace Resolution

theorem textOf_render_json (resolution : Resolution) :
    Json.TextOf resolution.toJson (resolution.render .json) :=
  Json.textOf_render resolution.toJson

/-- **The JSON of a resolution is well-formed and decodes to the resolution**: it spells a document,
every document that it spells decodes to the resolution, and reading finds one. So no other
resolution has the same JSON. -/
theorem render_json_reads_back (resolution : Resolution) :
    let text := resolution.render .json
    (∃ json, Json.TextOf json text) ∧
      (∀ json, Json.TextOf json text → ofJson? json = some resolution) ∧
      (Json.read? text).bind ofJson? = some resolution ∧
      ∀ other : Resolution, other.render .json = text → other = resolution := by
  intro text
  have htext : Json.TextOf resolution.toJson text := textOf_render_json resolution
  have hdecode (json : Json) (h : Json.TextOf json text) : ofJson? json = some resolution := by
    rw [h.unique htext]
    exact ofJson?_toJson resolution
  have hread : (Json.read? text).bind ofJson? = some resolution := by
    rw [Json.read?_of_textOf htext, Option.bind_some]
    exact ofJson?_toJson resolution
  refine ⟨⟨_, htext⟩, hdecode, hread, ?_⟩
  intro other hsame
  have hother : Json.TextOf other.toJson text := hsame ▸ textOf_render_json other
  exact Option.some.inj ((ofJson?_toJson other).symm.trans (hdecode _ hother))

end Resolution
end CrossFlags
