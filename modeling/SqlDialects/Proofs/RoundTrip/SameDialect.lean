import SqlDialects.Expr.Equality
import SqlDialects.Proofs.RoundTrip.ParsedStatement
import SqlDialects.Proofs.RoundTrip.Stable
import SqlDialects.Proofs.RoundTrip.Statement
import SqlDialects.Proofs.Statements.Outcome

/-!
# There and back in one dialect

A dialect writes whatever it has read, and reads what it wrote as the same
statement in its canonical form.  The canonical form is the end of it: it is
written as the text that it was read from.

This is where the two halves of the development meet.  What was read is readable,
and what is readable comes back; the names of types that were read are canonical,
and therefore spelled as words.
-/

namespace SqlDialects

theorem ReadableStatement.render_canon {n : DialectName} {d : Dialect} (hd : n.Makes d) {e : Expr}
    (h : ReadableStatement n n.Canonical e) : d.render (d.canon e) = d.render e := by
  rcases h with h | h
  · exact h.render_canon hd
  · exact h.render_canon hd

/-- **What a dialect reads, it writes, and reads again as the same in canonical form**, whatever
its configuration; and the canonical form is written alike. -/
theorem parseOne_write_of_parse (name : DialectName) (config? : Option Setting) {text : String}
    {es : List Expr} (h : ((Dialect.builtin name config?).parse text).outcome = .ok es) :
    ∀ e ∈ es, ∃ s, ((Dialect.builtin name config?).write e).outcome = .ok s ∧
      ((Dialect.builtin name config?).parseOne s).outcome =
        .ok ((Dialect.builtin name config?).canon e) ∧
      ((Dialect.builtin name config?).write ((Dialect.builtin name config?).canon e)).outcome =
        .ok s := by
  intro e he
  have hd := name.makes_builtin config?
  have hreadable := readable_of_parse hd h e he
  obtain ⟨s, hwrite, hparse⟩ := exists_write_parseOne hd
    (hreadable.mono fun _ hname => name.spellsType_of_isWord hname.isWord)
  refine ⟨s, hwrite, hparse, ?_⟩
  rw [Dialect.outcome_write_eq_ok] at hwrite ⊢
  rw [hreadable.render_canon hd]
  exact hwrite

/-- With every name in quotes, `SELECT f(a) b` comes back with the names quoted. -/
theorem parseOne_write_select :
    let d := Dialect.builtin .clickhouse (some (.map [("identify", .bool true)]))
    let q (quoted : Bool) : Query Expr :=
      { projections := [.aliased (.call "f" [.identifier ⟨"a", quoted⟩]) ⟨"b", quoted⟩] }
    (d.parse "SELECT f(a) b").outcome = .ok [.select (q false)] ∧
      ∃ s, (d.write (.select (q false))).outcome = .ok s ∧
        (d.parseOne s).outcome = .ok (.select (q true)) ∧
        (d.write (.select (q true))).outcome = .ok s := by
  intro d q
  have hparse : (d.parse "SELECT f(a) b").outcome = .ok [.select (q false)] := by decide +kernel
  have hcanon : d.canon (.select (q false)) = .select (q true) := by decide +kernel
  have hback := parseOne_write_of_parse .clickhouse _ hparse _ List.mem_cons_self
  exact ⟨hparse, hcanon ▸ hback⟩

end SqlDialects
