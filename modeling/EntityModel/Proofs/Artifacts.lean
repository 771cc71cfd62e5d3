import EntityModel.Artifact
import EntityModel.Proofs.Go.Text
import EntityModel.Proofs.Sql.Split
import EntityModel.Schema.Json

/-! # Headlines of artifacts

The first line of every artifact is a comment that names the tool
(`ArtifactKind.headline_isPrefix`). Other languages mark comments in other ways, and the scripts for
the dialects name these, so artifacts of different kinds are different texts
(`ArtifactKind.text_ne`). No JSON text starts with a comment, so no artifact is read as a schema
(`ArtifactKind.exists_parse_eq_error`). -/

namespace EntityModel

namespace ArtifactKind

/-- What comments start with. -/
def mark : ArtifactKind → String
  | .go => "//"
  | .openapi => "#"
  | .sql _ => "--"

/-- The first line of an artifact. -/
def headline (k : ArtifactKind) (generator : String) : String :=
  k.mark ++ " Code generated by " ++ generator ++ ". DO NOT EDIT."

variable {k k' : ArtifactKind} {o : ArtifactOptions} {s : Schema} {text text' : String}

/-! ## Headlines -/

/-- The headline of a Go file is laid out as it is. -/
theorem headline_isPrefix_go {package generator source : String} (hfeed : '\n' ∉ generator.toList)
    (hcell : Go.cell ∉ generator.toList) (h : Go.generate package generator s = .ok source) :
    (go.headline generator ++ "\n").toList <+: source.toList := by
  obtain ⟨f, hf, hlayout⟩ := Go.generate_eq_ok_iff.1 h
  obtain ⟨ps⟩ := Go.file_eq_ok_iff.1 hf
  have hgenerator : f.generator = generator := congrArg Go.File.generator ps.file_eq
  have hfirst : "// Code generated by " ++ generator ++ ". DO NOT EDIT." = go.headline generator :=
    congrArg (· ++ generator ++ ". DO NOT EDIT.") (by decide)
  have htext : ∃ rest, f.text.toList = (go.headline generator).toList ++ '\n' :: rest := by
    rw [f.toList_text, Go.File.lines, hgenerator, hfirst]
    exact ⟨_, Go.charsOf_cons _ _⟩
  have hlast : '.' ∈ (go.headline generator).toList.getLast? := by
    rw [headline, String.toList_append, List.getLast?_append_of_ne_nil _ (by decide)]
    rfl
  obtain ⟨rest, htext⟩ := htext
  -- Without line feeds it is one line, and without cells it is not aligned with the next one.
  rw [String.toList_append]
  refine Go.isPrefix_of_layout_eq_ok ?_ ?_ hlast (by decide) htext hlayout
  · simp [headline, mark, String.toList_append, hfeed]
  · rw [headline, mark, String.toList_append, String.toList_append, List.mem_append,
      List.mem_append]
    rintro ((hc | hc) | hc)
    · exact absurd hc (by decide)
    · exact hcell hc
    · exact absurd hc (by decide)

/-- Every artifact starts with its headline. -/
theorem headline_isPrefix (hfeed : '\n' ∉ o.banner.generator.toList)
    (hcell : Go.cell ∉ o.banner.generator.toList) (h : k.generate o s = .ok text) :
    (k.headline o.banner.generator ++ "\n").toList <+: text.toList := by
  cases k with
  | go => exact headline_isPrefix_go hfeed hcell h
  | openapi =>
    obtain ⟨document, -, htext⟩ := Outcome.bind_eq_ok_iff.1 h
    rw [← Except.ok.inj htext, OpenApi.bannerText, Banner.lines]
    simp [headline, mark, String.toList_append, String.toList_join]
  | sql d =>
    obtain ⟨p, -, htext⟩ := Outcome.map_eq_ok_iff.1 h
    rw [← htext, Sql.render, String.toList_append (s := Sql.bannerText _ _), Sql.toList_bannerText,
      Sql.bannerComments, Banner.lines]
    simp [headline, mark, String.toList_append]

/-- An artifact starts with the mark of its kind. -/
theorem exists_eq_mark_append (hfeed : '\n' ∉ o.banner.generator.toList)
    (hcell : Go.cell ∉ o.banner.generator.toList) (h : k.generate o s = .ok text) :
    ∃ rest, text.toList = k.mark.toList ++ rest := by
  obtain ⟨rest, hrest⟩ := headline_isPrefix hfeed hcell h
  rw [← hrest, headline]
  simp only [String.toList_append, List.append_assoc]
  exact ⟨_, rfl⟩

/-! ## Different texts -/

/-- The scripts for different dialects differ in the line that names the dialect. -/
theorem render_ne (b : Banner) (p p' : Relational.Plan) :
    Sql.render .postgres b p ≠ Sql.render .sqlite b p' := by
  intro heq
  -- The banner is the same up to the name of the dialect, where the two have other letters.
  have hchars := congrArg String.toList heq
  rw [Sql.render, Sql.render, String.toList_append, String.toList_append, Sql.toList_bannerText,
    Sql.toList_bannerText, Sql.bannerComments, Sql.bannerComments, List.flatMap_append,
    List.flatMap_append, List.append_assoc, List.append_assoc, List.append_cancel_left_eq] at hchars
  simp [Sql.Dialect.name] at hchars

/-- Texts that start alike are of one kind, or both are scripts. -/
theorem eq_or_exists_sql {rest rest' : List Char}
    (h : k.mark.toList ++ rest = k'.mark.toList ++ rest') :
    k = k' ∨ ∃ d d', k = sql d ∧ k' = sql d' := by
  cases k <;> cases k' <;> simp_all [mark]

/-- Artifacts of different kinds are different texts. -/
theorem text_ne (hfeed : '\n' ∉ o.banner.generator.toList)
    (hcell : Go.cell ∉ o.banner.generator.toList) (hne : k ≠ k') (h : k.generate o s = .ok text)
    (h' : k'.generate o s = .ok text') : text ≠ text' := by
  rintro rfl
  obtain ⟨_, hchars⟩ := exists_eq_mark_append hfeed hcell h
  obtain ⟨_, hchars'⟩ := exists_eq_mark_append hfeed hcell h'
  rcases eq_or_exists_sql (hchars.symm.trans hchars') with heq | ⟨d, d', rfl, rfl⟩
  · exact hne heq
  · obtain ⟨p, -, htext⟩ := Outcome.map_eq_ok_iff.1 h
    obtain ⟨p', -, htext'⟩ := Outcome.map_eq_ok_iff.1 h'
    cases d <;> cases d'
    · exact hne rfl
    · exact render_ne _ _ _ (htext.trans htext'.symm)
    · exact render_ne _ _ _ (htext'.trans htext.symm)
    · exact hne rfl

/-! ## No documents -/

/-- A text is not JSON if its first token is broken. -/
theorem parse_eq_error_of_next {first : Char} {rest : List Char} {place : Json.Break}
    (htext : text.toList = first :: rest) (hblank : Json.Token.isBlank first = false)
    (hnext : Json.Token.next first rest = (.scalar (.broken place), [])) :
    Schema.parse text = .error (.fault place.used) := by
  have htokens : Json.Token.list text.toList = [.scalar (.broken place)] := by
    rw [htext, Json.Token.list, List.length_cons, Json.Token.listUpTo,
      List.dropWhile_cons_of_neg (by simp [hblank])]
    simp only [hnext]
    cases rest <;> simp [Json.Token.listUpTo]
  have hdocument : Json.Document.read text = ⟨.broken place, false⟩ := by
    rw [Json.Document.read, htokens]
    simp [Json.Document.value, Json.Document.afterValue]
  rw [Schema.parse, Json.decodeText, hdocument]
  rfl

/-- No artifact is a schema. -/
theorem exists_parse_eq_error (hfeed : '\n' ∉ o.banner.generator.toList)
    (hcell : Go.cell ∉ o.banner.generator.toList) (h : k.generate o s = .ok text) :
    ∃ fault, Schema.parse text = .error (.fault fault) := by
  obtain ⟨rest, hchars⟩ := exists_eq_mark_append hfeed hcell h
  cases k with
  | go => exact ⟨_, parse_eq_error_of_next hchars (by decide) rfl⟩
  | openapi => exact ⟨_, parse_eq_error_of_next hchars (by decide) rfl⟩
  | sql d =>
    have hdashes : (sql d).mark.toList = ['-', '-'] := String.toList_ofList
    exact ⟨_, parse_eq_error_of_next (hdashes ▸ hchars) (by decide) rfl⟩

end ArtifactKind

end EntityModel
