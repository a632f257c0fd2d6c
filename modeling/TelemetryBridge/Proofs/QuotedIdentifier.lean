import TelemetryBridge.Sources.Backup
import Mathlib.Data.List.TakeWhile

/-!
# Quoted identifiers read back

The backup store names its table in the latest-row query as a quoted identifier
(`BackupStore.quoteIdent`): the name between double quotes, each double quote in it written
twice. The statement reader (`Sql.tokenize`) takes a double quote as the start of a quoted name
that runs to the first double quote not followed by another, a doubled quote standing for one,
and stops reading at the first `NUL`.

Main statement: `BackupStore.quoteIdent_reads_back`. For every name without `NUL`, its quoted
identifier is read as one quoted-name token whose text is the name; wherever the reader meets it
(followed by anything but a double quote) it takes exactly that token and goes on right after
its closing quote; and the latest-row query of a table is read as the same token sequence
whatever the table's name, the name standing only in the quoted-name token after `FROM`. So no
name can close its identifier early or add tokens to the query.

The quoted run over a doubled body gives the name back (`Sql.Lex.quotedRun_quoteBody`), which
makes one step of the reader (`Sql.Lex.lexemes_quoteIdent`); the fixed text of the query around
the identifier is read by evaluation (`lexemes_queryHead`, `lexemes_queryTail`).
-/

namespace TelemetryBridge

namespace BackupStore

/-- The characters of a name inside its quoted identifier: each double quote written twice. -/
def quoteBody (cs : List Char) : List Char :=
  cs.flatMap fun c => if c = '"' then ['"', '"'] else [c]

@[simp] theorem quoteBody_nil : quoteBody [] = [] := rfl

@[simp] theorem quoteBody_cons_quote (cs : List Char) :
    quoteBody ('"' :: cs) = '"' :: '"' :: quoteBody cs := rfl

theorem quoteBody_cons_of_ne {c : Char} (hc : c ≠ '"') (cs : List Char) :
    quoteBody (c :: cs) = c :: quoteBody cs := by
  rw [quoteBody, List.flatMap_cons, if_neg hc, ← quoteBody]
  rfl

/-- The body holds the name's characters and the doubled quotes, nothing else. -/
theorem mem_quoteBody {c : Char} {cs : List Char} (h : c ∈ quoteBody cs) : c = '"' ∨ c ∈ cs := by
  obtain ⟨d, hd, hc⟩ := List.mem_flatMap.mp h
  split at hc
  · simp only [List.mem_cons, List.not_mem_nil, or_false, or_self] at hc
    exact .inl hc
  · exact .inr (List.mem_singleton.mp hc ▸ hd)

/-- The characters of a quoted identifier: the name's body between double quotes. -/
theorem toList_quoteIdent (name : String) :
    (quoteIdent name).toList = '"' :: quoteBody name.toList ++ ['"'] := by
  simp only [quoteIdent, String.toList_append, String.toList_join, List.flatMap_map]
  have hq : "\"".toList = ['"'] := by decide
  have hc : ∀ a : Char, (if (a == '"') = true then "\"\"" else a.toString).toList =
      if a = '"' then ['"', '"'] else [a] := by
    intro a
    by_cases h : a = '"' <;> simp [h]
  simp only [hq, hc, List.cons_append, List.nil_append]
  rfl

/-- A quoted identifier holds a `NUL` only where its name does. -/
theorem ne_nul_of_mem_quoteIdent {name : String} (h : '\x00' ∉ name.toList) {c : Char}
    (hc : c ∈ (quoteIdent name).toList) : c ≠ '\x00' := by
  rw [toList_quoteIdent] at hc
  simp only [List.cons_append, List.mem_cons, List.mem_append, List.not_mem_nil, or_false] at hc
  rcases hc with rfl | hc | rfl
  · decide
  · rcases mem_quoteBody hc with rfl | hc
    · decide
    · exact fun h0 => h (h0 ▸ hc)
  · decide

end BackupStore

namespace Sql

theorem Lex.lexemes_nil (fuel : Nat) (gap : List Char) (acc : List Lexeme) :
    Lex.lexemes fuel [] gap acc = acc.reverse := by
  cases fuel <;> rfl

/-- A text without `NUL` is read whole. -/
theorem tokenize_of_ne_nul {text : String} (h : ∀ c ∈ text.toList, c ≠ '\x00') :
    tokenize text = Lex.lexemes (text.length + 1) text.toList [] [] := by
  rw [tokenize, List.takeWhile_eq_self_iff.mpr fun c hc => bne_iff_ne.mpr (h c hc)]

/-- A quoted run over a doubled body ends at the quote after it, and gives back the characters
before doubling. -/
theorem Lex.quotedRun_quoteBody (cs rest acc : List Char) (hr : rest.head? ≠ some '"') :
    Lex.quotedRun '"' (BackupStore.quoteBody cs ++ '"' :: rest) acc =
      some (acc.reverse ++ cs, rest) := by
  induction cs generalizing acc with
  | nil =>
    cases rest with
    | nil => simp [Lex.quotedRun]
    | cons d rest =>
      -- the closing quote is not doubled
      have hd : d ≠ '"' := fun h => hr (by simp [h])
      simp [Lex.quotedRun, hd]
  | cons c cs ih =>
    by_cases hc : c = '"'
    · subst hc
      simp [Lex.quotedRun, ih]
    · rw [BackupStore.quoteBody_cons_of_ne hc, List.cons_append, Lex.quotedRun.eq_def]
      simp only [beq_iff_eq, if_neg hc, ih]
      simp

/-- Wherever the reader meets a quoted identifier not followed by a double quote, it takes the
identifier whole as one quoted-name token whose text is the name, and goes on right after it. -/
theorem Lex.lexemes_quoteIdent (name : String) (fuel : Nat) (rest gap : List Char)
    (acc : List Lexeme) (hr : rest.head? ≠ some '"') :
    Lex.lexemes (fuel + 1) ((BackupStore.quoteIdent name).toList ++ rest) gap acc =
      Lex.lexemes fuel rest []
        (⟨.quoted name true, BackupStore.quoteIdent name, String.ofList gap.reverse⟩ :: acc) := by
  have hq := BackupStore.toList_quoteIdent name
  -- the token's source is what the quoted run takes: the whole identifier
  have htake : ('"' :: (BackupStore.quoteBody name.toList ++ '"' :: rest)).take
      ((BackupStore.quoteBody name.toList ++ '"' :: rest).length + 1 - rest.length) =
      (BackupStore.quoteIdent name).toList := by
    rw [hq, show (BackupStore.quoteBody name.toList ++ '"' :: rest).length + 1 - rest.length =
        (BackupStore.quoteBody name.toList ++ ['"']).length + 1 by
      simp only [List.length_append, List.length_cons, List.length_nil]; omega,
      List.take_succ_cons, show BackupStore.quoteBody name.toList ++ '"' :: rest =
        (BackupStore.quoteBody name.toList ++ ['"']) ++ rest by simp, List.take_left,
      List.cons_append]
  rw [hq]
  simp only [List.cons_append, List.append_assoc]
  simp only [Lex.lexemes, Lex.isSpace, List.nil_append, Char.reduceBEq, Bool.or_false,
    Bool.false_and, Bool.false_eq_true, if_false, if_true, Lex.quotedRun_quoteBody _ _ _ hr,
    List.reverse_nil, htake, String.ofList_toList]

end Sql

namespace BackupStore

/-- A quoted identifier on its own is one token. -/
theorem tokenize_quoteIdent {name : String} (h : '\x00' ∉ name.toList) :
    Sql.tokenize (quoteIdent name) = [⟨.quoted name true, quoteIdent name, ""⟩] := by
  rw [Sql.tokenize_of_ne_nul fun c hc => ne_nul_of_mem_quoteIdent h hc,
    ← List.append_nil (quoteIdent name).toList,
    Sql.Lex.lexemes_quoteIdent _ _ _ _ _ (by decide), Sql.Lex.lexemes_nil]
  rfl

/-- The reader on the text of the latest-row query before the table's identifier: 27 steps
that never look past the text's last blank. -/
theorem lexemes_queryHead (k : Nat) (rest : List Char) (acc : List Sql.Lexeme) :
    Sql.Lex.lexemes (k + 28) (("SELECT " ++ ", ".intercalate columns ++ " FROM ").toList ++ rest)
        [] acc =
      Sql.Lex.lexemes (k + 1) rest [' ']
        ((Sql.Lex.lexemes 28 ("SELECT " ++ ", ".intercalate columns ++ " FROM ").toList
          [] []).reverse ++ acc) := by
  set_option maxRecDepth 20000 in rfl

/-- The reader on the text of the latest-row query after the table's identifier. -/
theorem lexemes_queryTail (k : Nat) (acc : List Sql.Lexeme) :
    Sql.Lex.lexemes (k + 13) " ORDER BY rowid DESC LIMIT 1".toList [] acc =
      ((Sql.Lex.lexemes 13 " ORDER BY rowid DESC LIMIT 1".toList [] []).reverse ++
        acc).reverse := by
  set_option maxRecDepth 20000 in rfl

/-- The latest-row query of a table is read as the same tokens whatever the table's name: the
name stands only in the quoted-name token after `FROM`. -/
theorem tokenize_latestQuery {table : String} (h : '\x00' ∉ table.toList) :
    (Sql.tokenize (latestQuery table)).map Sql.Lexeme.token =
      [.word "SELECT", .word "pressure", .op ",", .word "current", .op ",", .word "temp", .op ",",
        .word "runcycles", .op ",", .word "faults", .op ",", .word "mode", .op ",", .word "seq",
        .op ",", .word "gmid", .word "FROM", .quoted table true, .word "ORDER", .word "BY",
        .word "rowid", .word "DESC", .word "LIMIT", .num "1"] := by
  have hhead : ("SELECT " ++ ", ".intercalate columns ++ " FROM ").toList.all (· != '\x00') := by
    decide +kernel
  have htail : " ORDER BY rowid DESC LIMIT 1".toList.all (· != '\x00') := by decide +kernel
  have htext : (latestQuery table).toList =
      ("SELECT " ++ ", ".intercalate columns ++ " FROM ").toList ++
        ((quoteIdent table).toList ++ " ORDER BY rowid DESC LIMIT 1".toList) := by
    rw [latestQuery, String.toList_append, String.toList_append, List.append_assoc]
  have hnul : ∀ c ∈ (latestQuery table).toList, c ≠ '\x00' := by
    intro c hc
    rw [htext] at hc
    rcases List.mem_append.mp hc with hc | hc
    · exact bne_iff_ne.mp (List.all_eq_true.mp hhead c hc)
    rcases List.mem_append.mp hc with hc | hc
    · exact ne_nul_of_mem_quoteIdent h hc
    · exact bne_iff_ne.mp (List.all_eq_true.mp htail c hc)
  -- enough steps for the head, the identifier and the tail
  have hlen : (latestQuery table).length + 1 = ((quoteIdent table).length + 60 + 13) + 28 := by
    have hh : ("SELECT " ++ ", ".intercalate columns ++ " FROM ").length = 72 := by decide +kernel
    have ht : " ORDER BY rowid DESC LIMIT 1".length = 28 := by decide +kernel
    rw [latestQuery, String.length_append, String.length_append, hh, ht]
    omega
  rw [Sql.tokenize_of_ne_nul hnul, hlen, htext, lexemes_queryHead,
    Sql.Lex.lexemes_quoteIdent _ _ _ _ _ (by decide), lexemes_queryTail]
  simp only [List.append_nil, List.reverse_append, List.reverse_cons, List.reverse_reverse,
    List.map_append]
  set_option maxRecDepth 20000 in rfl

/-- A table name without `NUL`, written as a quoted identifier, is read back as one quoted-name
token holding exactly the name; wherever it stands, not followed by a double quote, the reader
takes that token and goes on after it; and the latest-row query of the table is read as its
fixed tokens with the name in the quoted-name token after `FROM`. -/
theorem quoteIdent_reads_back (name : String) (h : '\x00' ∉ name.toList) :
    Sql.tokenize (quoteIdent name) = [⟨.quoted name true, quoteIdent name, ""⟩] ∧
      (∀ fuel rest gap acc, rest.head? ≠ some '"' →
        Sql.Lex.lexemes (fuel + 1) ((quoteIdent name).toList ++ rest) gap acc =
          Sql.Lex.lexemes fuel rest []
            (⟨.quoted name true, quoteIdent name, String.ofList gap.reverse⟩ :: acc)) ∧
      (Sql.tokenize (latestQuery name)).map Sql.Lexeme.token =
        [.word "SELECT", .word "pressure", .op ",", .word "current", .op ",", .word "temp",
          .op ",", .word "runcycles", .op ",", .word "faults", .op ",", .word "mode", .op ",",
          .word "seq", .op ",", .word "gmid", .word "FROM", .quoted name true, .word "ORDER",
          .word "BY", .word "rowid", .word "DESC", .word "LIMIT", .num "1"] :=
  ⟨tokenize_quoteIdent h, fun fuel rest gap acc hr => Sql.Lex.lexemes_quoteIdent name fuel rest gap acc hr,
    tokenize_latestQuery h⟩

/-- A name made of quotes at its start, at its end and back to back. -/
theorem quoteIdent_reads_back_quotes :
    '\x00' ∉ "\"\"x\"\"\"".toList ∧
      (Sql.tokenize (quoteIdent "\"\"x\"\"\"") =
          [⟨.quoted "\"\"x\"\"\"" true, quoteIdent "\"\"x\"\"\"", ""⟩] ∧
        (∀ fuel rest gap acc, rest.head? ≠ some '"' →
          Sql.Lex.lexemes (fuel + 1) ((quoteIdent "\"\"x\"\"\"").toList ++ rest) gap acc =
            Sql.Lex.lexemes fuel rest []
              (⟨.quoted "\"\"x\"\"\"" true, quoteIdent "\"\"x\"\"\"", String.ofList gap.reverse⟩ ::
                acc)) ∧
        (Sql.tokenize (latestQuery "\"\"x\"\"\"")).map Sql.Lexeme.token =
          [.word "SELECT", .word "pressure", .op ",", .word "current", .op ",", .word "temp",
            .op ",", .word "runcycles", .op ",", .word "faults", .op ",", .word "mode", .op ",",
            .word "seq", .op ",", .word "gmid", .word "FROM", .quoted "\"\"x\"\"\"" true,
            .word "ORDER", .word "BY", .word "rowid", .word "DESC", .word "LIMIT", .num "1"]) :=
  ⟨by decide, quoteIdent_reads_back _ (by decide)⟩

end BackupStore

end TelemetryBridge
