import TableExport.Log.Logger
import TableExport.Proofs.Log.Masking

/-!
Texts that are redacted again. A record is redacted once for the console and once
more for the log file. What was masked stays as it is, with one exception: a
password that was masked behind the name of a secret is read as the value of that
secret, and the host behind the password is lost with it. So the two lines of a
record carry one message exactly when no user name ends in such a name.
-/

set_option autoImplicit false

namespace TableExport.Log

open TableExport.Text

/-- No mask of a password is read as the value of a secret, along with the sign of its host. -/
def KeepsHosts (text : String) : Prop :=
  ∀ part, part <:+ text.toList → ∀ rest, ¬ SecretAt part (mask ++ '@' :: rest)

/-! ### What stays as it is -/

section Staying

variable {text scanned written rest value : List Char}

private theorem eq_of_closes {first second behind after : List Char}
    (secret : ∀ character ∈ first, isSecretCharacter character = true)
    (secretToo : ∀ character ∈ second, isSecretCharacter character = true)
    (closes : ClosesValue behind) (closesToo : ClosesValue after)
    (same : first ++ behind = second ++ after) : first = second ∧ behind = after := by
  have taken := congrArg (List.takeWhile isSecretCharacter) same
  rw [List.takeWhile_append_of_pos secret, List.takeWhile_append_of_pos secretToo,
    takeWhile_closed closes, takeWhile_closed closesToo, List.append_nil, List.append_nil] at taken
  exact ⟨taken, List.append_cancel_left (taken ▸ same)⟩

theorem WrittenAt.eq_append (held : WrittenAt text) (span : SecretSpan text written rest) :
    text = written ++ rest := by
  cases span with
  | @span name before after value rest sign named spelled blankBefore signed blankAfter _ secret
      closes =>
      clear named
      generalize same : name ++ (before ++ sign :: (after ++ (value ++ rest))) = text at held
      -- the name is followed letter by letter, and then the signs must be the same
      induction held generalizing name with
      | @sign behind closesToo =>
          cases name with
          | cons character name =>
              rw [List.cons_append] at same
              rw [(List.cons.inj same).1] at spelled
              exact absurd (.inr rfl) (spelled _ (.head _)).unsigned
          | nil =>
              cases before with
              | cons character before =>
                  rw [List.nil_append, List.cons_append] at same
                  rw [(List.cons.inj same).1] at blankBefore
                  exact absurd (blankBefore _ (.head _)) (by decide)
              | nil =>
                  cases after with
                  | cons character after =>
                      rw [List.nil_append, List.nil_append, List.cons_append] at same
                      obtain rfl : character = '*' := (List.cons.inj (List.cons.inj same).2).1
                      exact absurd (blankAfter _ (.head _)) (by decide)
                  | nil =>
                      obtain ⟨rfl, remains⟩ := List.cons.inj same
                      obtain ⟨rfl, rfl⟩ := eq_of_closes secret isSecretCharacter_mask closes
                        closesToo remains
                      rfl
      | @letter character behind spelledToo _ inductionHypothesis =>
          cases name with
          | cons first name =>
              rw [List.cons_append] at same
              obtain ⟨rfl, remains⟩ := List.cons.inj same
              rw [inductionHypothesis (fun other member => spelled other (.tail _ member)) remains]
              rfl
          | nil =>
              cases before with
              | cons first before =>
                  obtain ⟨rfl, _⟩ := List.cons.inj same
                  exact absurd (blankBefore _ (.head _)) (ne_true_of_eq_false spelledToo.unblank)
              | nil =>
                  obtain ⟨rfl, _⟩ := List.cons.inj same
                  exact absurd signed spelledToo.unsigned

private theorem exists_secretAt {replacement : Replacement}
    (found : secret? text = some replacement) :
    ∃ value, SecretAt text value := by
  by_contra unread
  rw [secret?_eq_none_iff.mpr (not_exists.mp unread)] at found
  cases found

private theorem Scan.eq_of_written (scan : Scan secret? text scanned)
    (written : ∀ part, part <:+ text → ∀ value, SecretAt part value → WrittenAt part) :
    scanned = text := by
  induction scan with
  | done => rfl
  | keep _ _ inductionHypothesis =>
      rw [inductionHypothesis fun part ends => written part (ends.trans (List.suffix_cons _ _))]
  | @replace text rest scanned replacement found remains _ inductionHypothesis =>
      obtain ⟨value, read⟩ := exists_secretAt found
      have span := (secret?_span found).1
      have inside : rest <:+ text := remains ▸ List.drop_suffix _ _
      rw [remains] at span
      rw [inductionHypothesis fun part ends => written part (ends.trans inside)]
      exact ((written text (List.suffix_refl _) value read).eq_append span).symm

private theorem Scan.eq_of_hidden (scan : Scan addressPassword? text scanned)
    (hidden : ∀ part, part <:+ text → IsHiddenAt part) : scanned = text := by
  induction scan with
  | done => rfl
  | keep _ _ inductionHypothesis =>
      rw [inductionHypothesis fun part ends => hidden part (ends.trans (List.suffix_cons _ _))]
  | @replace text rest scanned replacement found remains _ inductionHypothesis =>
      have inside : rest <:+ text := remains ▸ List.drop_suffix _ _
      rw [inductionHypothesis fun part ends => hidden part (ends.trans inside)]
      obtain ⟨user, password, behind, ⟨named, plain, filled, signless⟩, rfl, _, left, written⟩ :=
        addressPassword?_eq_some found
      obtain rfl := left.symm.trans remains
      have masked := hidden _ (List.suffix_refl _) password (.address named plain filled signless)
      rw [written, masked]

end Staying

/-! ### What changes -/

section Changing

variable {text scanned written rest : List Char}

private theorem SecretSpan.count_colon_le (span : SecretSpan text written rest) :
    (written ++ rest).count ':' ≤ text.count ':' := by
  have masked : ('=' :: mask).count ':' = 0 := by decide
  cases span with
  | span =>
      simp only [List.count_append, List.count_cons, masked]
      omega

/-- A colon in front of a masked password is the sign of the secret in front of it. -/
theorem SecretSpan.count_colon_lt (span : SecretSpan text written rest)
    (before : BeforeMask text) : (written ++ rest).count ':' < text.count ':' := by
  have masked : ('=' :: mask).count ':' = 0 := by decide
  obtain ⟨front, behind, same, fitting⟩ := before
  cases span with
  | @span name blanks after value rest sign _ spelled blankBefore signed =>
      have unblank {character : Char} (blank : isBlank character = true) : ¬ IsSign character :=
        fun signed => ne_true_of_eq_false signed.unblank blank
      have unsigned : ∀ character ∈ name ++ blanks, decide (¬ IsSign character) = true := by
        refine List.forall_mem_append.mpr ⟨fun character member => ?_, fun character member => ?_⟩
        · exact decide_eq_true (spelled character member).unsigned
        · exact decide_eq_true (unblank (blankBefore character member))
      have unsignedToo : ∀ character ∈ front, decide (¬ IsSign character) = true :=
        fun character member => decide_eq_true
          ((fitting character member).elim IsSpelled.unsigned unblank)
      have stops {sign : Char} (signed : IsSign sign) : ¬ decide (¬ IsSign sign) = true :=
        fun unsigned => of_decide_eq_true unsigned signed
      rw [← List.append_assoc] at same
      have first := congrArg (List.dropWhile fun character => decide (¬ IsSign character)) same
      rw [dropWhile_stop unsigned (stops signed), dropWhile_stop unsignedToo (stops (.inl rfl))]
        at first
      obtain ⟨rfl, _⟩ := List.cons.inj first
      simp only [List.count_append, List.count_cons, masked, beq_self_eq_true, if_true]
      omega

private theorem Scan.count_colon_le (scan : Scan secret? text scanned) :
    scanned.count ':' ≤ text.count ':' := by
  induction scan with
  | done => exact Nat.le_refl _
  | keep _ _ inductionHypothesis =>
      rw [List.count_cons, List.count_cons]
      exact Nat.add_le_add_right inductionHypothesis _
  | replace found remains _ inductionHypothesis =>
      have fewer := (secret?_span found).1.count_colon_le
      rw [remains, List.count_append] at fewer
      rw [List.count_append]
      omega

private theorem Hides.count_colon_le {hidden : List Char} (hides : Hides text hidden) :
    hidden.count ':' ≤ text.count ':' := by
  have masked : mask.count ':' = 0 := by decide
  induction hides with
  | done => exact Nat.le_refl _
  | keep _ _ inductionHypothesis =>
      rw [List.count_cons, List.count_cons]
      exact Nat.add_le_add_right inductionHypothesis _
  | hide _ _ _ inductionHypothesis =>
      simp only [List.count_cons, List.count_append, masked]
      omega

/-- A password that is masked behind the name of a secret loses the colon in front of it. -/
theorem Scan.count_colon_lt (scan : Scan secret? text scanned)
    (allRead : ∀ part, part <:+ text → ∀ value, SecretAt part value →
      WrittenAt part ∨ BeforeMask part)
    {part value : List Char} (ends : part <:+ text) (before : BeforeMask part)
    (read : SecretAt part value) : scanned.count ':' < text.count ':' := by
  induction scan with
  | done =>
      obtain ⟨front, _, same, _⟩ := before
      exact absurd (List.suffix_nil.mp ends ▸ same).symm (by simp)
  | keep missing _ inductionHypothesis =>
      rcases List.suffix_cons_iff.mp ends with rfl | inside
      · exact absurd read (secret?_eq_none_iff.mp missing value)
      · rw [List.count_cons, List.count_cons]
        refine Nat.add_lt_add_right (inductionHypothesis (fun part ends => ?_) inside) _
        exact allRead part (ends.trans (List.suffix_cons _ _))
  | @replace text rest scanned replacement found remains later inductionHypothesis =>
      have span := (secret?_span found).1
      rw [remains] at span
      have fewer := later.count_colon_le
      obtain ⟨other, readHere⟩ := exists_secretAt found
      rcases allRead text (List.suffix_refl _) other readHere with written | beforeHere
      · have same := written.eq_append span
        obtain ⟨name, spelled, closes, replaced⟩ := span.replaced
        -- what was written is masked whole, so the password stands behind it
        have outside : ∀ part, part <:+ name ++ '=' :: (mask ++ rest) →
            BeforeMask part → (∃ value, SecretAt part value) → part <:+ rest :=
          forall_suffix_written
            (fun part unread _ ⟨value, read⟩ => absurd read (unread value))
            (fun part ends _ _ => ends)
            (fun part written before ⟨value, read⟩ => by
              obtain ⟨_, longer⟩ := before.secret_eq read
              rw [written.secret_eq read] at longer
              exact absurd (congrArg List.length longer) (by simp))
            spelled closes
        have inside : rest <:+ text := same ▸ List.suffix_append _ _
        have strict := inductionHypothesis (fun part ends => allRead part (ends.trans inside))
          (outside part (replaced rest ▸ same ▸ ends) before ⟨value, read⟩)
        rw [same, List.count_append, List.count_append]
        omega
      · have strict := span.count_colon_lt beforeHere
        rw [List.count_append] at strict ⊢
        omega

end Changing

/-! ### Redaction of a redacted text -/

private theorem redact_redact_of_keepsHosts {text : String} (keeps : KeepsHosts (redact text)) :
    redact (redact text) = redact text := by
  obtain ⟨once, first, second⟩ := scans_of_redact (redact text)
  have same : once = (redact text).toList := by
    refine first.eq_of_written fun part ends value read => ?_
    rcases writtenAt_redacted text part ends value read with written | before
    · exact written
    · obtain ⟨rest, rfl⟩ := before.secret_eq read
      exact absurd read (keeps part ends rest)
  rw [same] at second
  exact String.toList_inj.mp (second.eq_of_hidden (isHiddenAt_redacted text))

private theorem count_colon_redact_lt {text : String} (loses : ¬ KeepsHosts (redact text)) :
    (redact (redact text)).toList.count ':' < (redact text).toList.count ':' := by
  obtain ⟨part, ends, rest, read⟩ : ∃ part, part <:+ (redact text).toList ∧
      ∃ rest, SecretAt part (mask ++ '@' :: rest) := by
    simpa only [KeepsHosts, not_forall, not_not, exists_prop] using loses
  obtain ⟨once, first, second⟩ := scans_of_redact (redact text)
  have before : BeforeMask part := by
    rcases writtenAt_redacted text part ends _ read with written | before
    · exact absurd (congrArg List.length (written.secret_eq read)) (by simp)
    · exact before
  have fewer := (hides_of_scan second).count_colon_le
  exact Nat.lt_of_le_of_lt fewer
    (first.count_colon_lt (writtenAt_redacted text) ends before read)

/-- In a log file a record has the line that it would have with its text redacted. -/
theorem fileText_singleton (stamp : String) (record : Record) :
    Logger.fileText stamp [record] =
      stamp ++ Record.line { record with text := redact record.text } ++ "\n" := by
  simp only [Logger.fileText, Record.line, List.map_cons, List.map_nil, String.join_cons,
    String.join_nil, String.append_empty, String.append_assoc]
  rfl

private theorem count_colon_shownText (record : Record) (text : String) :
    (record.shownText text).toList.count ':' =
      text.toList.count ':' + if record.asksFailure then 1 else 0 := by
  have one : noFailureText.toList.count ':' = 1 := by decide
  have uncoloned : "\n".toList.count ':' = 0 := by decide
  unfold Record.shownText
  cases record.asksFailure with
  | false => rfl
  | true =>
      simp only [Bool.not_true, Bool.false_eq_true, if_false, if_true]
      split
      · rw [String.toList_append, List.count_append, one]
      · rw [String.toList_append, String.toList_append, List.count_append, List.count_append, one,
          uncoloned]

private theorem count_colon_of_line_eq {record : Record} {text : String}
    (same : Record.line { record with text := text } = record.line) :
    text.toList.count ':' = record.text.toList.count ':' := by
  have counts := congrArg (fun line => line.toList.count ':') same
  simp only [Record.line, String.toList_append, List.count_append, count_colon_shownText] at counts
  omega

/-- A redacted text is redacted to itself, and the line of its record in the log file is the one on
the console, exactly when no host is lost behind a user name that ends in the name of a secret. -/
theorem redact_redact_eq_iff_keepsHosts (text stamp : String) (level : Level)
    (asksFailure : Bool) :
    (redact (redact text) = redact text ↔ KeepsHosts (redact text)) ∧
      (Logger.fileText stamp [⟨level, redact text, asksFailure⟩] =
          stamp ++ Record.line ⟨level, redact text, asksFailure⟩ ++ "\n" ↔
        KeepsHosts (redact text)) := by
  have same (keeps : KeepsHosts (redact text)) := redact_redact_of_keepsHosts keeps
  have differs (loses : ¬ KeepsHosts (redact text)) := count_colon_redact_lt loses
  constructor
  · refine ⟨fun unchanged => ?_, same⟩
    by_contra loses
    exact absurd (congrArg (fun text => text.toList.count ':') unchanged) (differs loses).ne
  · rw [fileText_singleton]
    refine ⟨fun lines => ?_, fun keeps => by rw [same keeps]⟩
    by_contra loses
    have alike := (String.append_right_inj _).mp ((String.append_left_inj _).mp lines)
    exact absurd (count_colon_of_line_eq alike) (differs loses).ne

/-- A password behind a user name that ends in the name of a secret takes its host along when it is
redacted again. -/
theorem redact_again_loses_host :
    redact "db://token:,a@h" = "db://token:***REDACTED***@h" ∧
      redact "db://token:***REDACTED***@h" = "db://token=***REDACTED***" ∧
      redact (redact "db://token:,a@h") ≠ redact "db://token:,a@h" := by
  decide

end TableExport.Log
