import CapyPdf.Execution.Op
import CapyPdf.Syntax.Calculator

namespace CapyPdf

open PdfDocument Syntax Calculator

variable {α : Type} [Add α] [Sub α] [Mul α] [Neg α]

theorem eval_separation {C M Y K : String} (hC : IsNumberToken C) (hM : IsNumberToken M)
    (hY : IsNumberToken Y) (hK : IsNumberToken K) (val : String → α) (t : α) :
    eval val ("\x7b dup " ++ C ++ " mul\nexch " ++ M ++ " exch dup " ++ Y ++ " mul\nexch " ++ K ++
      " mul\n\x7d\n") [t] = some [t * val K, t * val Y, val M, t * val C] := by
  have hdup : IsWord "dup" := by decide
  have hmul : IsWord "mul" := by decide
  have hexch : IsWord "exch" := by decide
  have htok : tokenize ("\x7b dup " ++ C ++ " mul\nexch " ++ M ++ " exch dup " ++ Y ++ " mul\nexch " ++
      K ++ " mul\n\x7d\n").data =
      ["\x7b", "dup", C, "mul", "exch", M, "exch", "dup", Y, "mul", "exch", K, "mul", "\x7d"] := by
    have hdata : ("\x7b dup " ++ C ++ " mul\nexch " ++ M ++ " exch dup " ++ Y ++ " mul\nexch " ++ K ++
        " mul\n\x7d\n").data = '\x7b' :: ' ' :: ("dup".data ++ ' ' :: (C.data ++ ' ' :: ("mul".data ++
        '\n' :: ("exch".data ++ ' ' :: (M.data ++ ' ' :: ("exch".data ++ ' ' :: ("dup".data ++ ' ' ::
        (Y.data ++ ' ' :: ("mul".data ++ '\n' :: ("exch".data ++ ' ' :: (K.data ++ ' ' ::
        ("mul".data ++ '\n' :: ['\x7d', '\n'])))))))))))) := by
      simp only [String.data_append, List.append_assoc]
      rfl
    rw [tokenize, hdata, show ∀ rest, words ('\x7b' :: ' ' :: rest) [] = "\x7b" :: words rest [] from
      fun _ => rfl]
    have hsp : isWhite ' ' = true := rfl
    have hnl : isWhite '\n' = true := rfl
    rw [words_word hdup hsp, words_word hC.1 hsp, words_word hmul hnl, words_word hexch hsp,
      words_word hM.1 hsp, words_word hexch hsp, words_word hdup hsp, words_word hY.1 hsp,
      words_word hmul hnl, words_word hexch hsp, words_word hK.1 hsp, words_word hmul hnl]
    rfl
  rw [eval, htok]
  simp only [List.getLast?_cons_cons, List.getLast?_singleton, if_true, List.dropLast_cons₂,
    List.dropLast_single, List.foldlM_cons, List.foldlM_nil]
  simp [step_number hC val, step_number hM val, step_number hY val, step_number hK val]

example : eval (fun _ => (1 : Int)) "\x7b dup 1 mul\nexch 1 exch dup 1 mul\nexch 1 mul\n\x7d\n" [0] =
    some [0, 0, 1, 0] := by
  decide

theorem createSeparation_tint (env : Env) (d : PdfDocument) (name : String)
    (fallback : DeviceCMYKColor)
    (hfmt : ∀ x ∈ [fallback.c, fallback.m, fallback.y, fallback.k], IsNumberToken (env.fmtDouble x)) :
    ∃ id d' buf stream sepBuf, (createSeparation env name fallback).run d = .ok id d' ∧
      d'.documentObjects =
        d.documentObjects ++ [.fullPDFObject buf (textBytes stream), .fullPDFObject sepBuf []] ∧
      ∀ {α : Type} [Add α] [Sub α] [Mul α] [Neg α] (val : String → α) (t : α),
        eval val stream [t] = some [t * val (env.fmtDouble fallback.k),
          t * val (env.fmtDouble fallback.y), val (env.fmtDouble fallback.m),
          t * val (env.fmtDouble fallback.c)] := by
  simp only [createSeparation, addObject, run_modifyGet_bind, run_modify_bind, run_get_bind,
    run_pure]
  refine ⟨_, _, _, _, _, rfl, by simp; exact ⟨rfl, rfl⟩, fun val t => eval_separation (hfmt _ (.head _))
    (hfmt _ (.tail _ (.head _))) (hfmt _ (.tail _ (.tail _ (.head _))))
    (hfmt _ (.tail _ (.tail _ (.tail _ (.head _))))) val t⟩

theorem createSeparation_tint_all :
    let env : Env := { Env.minimal with fmtDouble := fun _ => "1" }
    let all : DeviceCMYKColor := ⟨1.0, 1.0, 1.0, 1.0⟩
    (∀ x ∈ [all.c, all.m, all.y, all.k], IsNumberToken (env.fmtDouble x)) ∧
    ∃ id d' buf stream sepBuf,
      (createSeparation env "All" all).run (PdfDocument.new 0 {} {}) = .ok id d' ∧
      d'.documentObjects = (PdfDocument.new 0 {} {}).documentObjects ++
        [.fullPDFObject buf (textBytes stream), .fullPDFObject sepBuf []] ∧
      ∀ {α : Type} [Add α] [Sub α] [Mul α] [Neg α] (val : String → α) (t : α),
        eval val stream [t] = some [t * val (env.fmtDouble all.k), t * val (env.fmtDouble all.y),
          val (env.fmtDouble all.m), t * val (env.fmtDouble all.c)] :=
  have hfmt : ∀ x ∈ [(1.0 : Float), 1.0, 1.0, 1.0], IsNumberToken "1" := fun _ _ => by decide
  ⟨hfmt, createSeparation_tint _ _ _ _ hfmt⟩

end CapyPdf
