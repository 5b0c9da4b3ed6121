import RecordSql.Url.Domain.Mapping.Block

/-! # Alphabets

The alphabets of formulas, and letters and digits in frames, with the plain letters that a domain
holds for them.
-/

namespace RecordSql.Url.Domain

def alphabets : List Block :=
  [⟨0x10781, 0x10785, "ː ˑ æ ʙ ɓ"⟩,
   ⟨0x10787, 0x107A7, "ʣ ꭦ ʥ ʤ ɖ ɗ ᶑ ɘ ɞ ʩ ɤ ɢ ɠ ʛ ħ ʜ ɧ ʄ ʪ ʫ ɬ 𝼄 ꞎ ɮ 𝼅 ʎ 𝼆 ø ɶ ɷ q ɺ 𝼈"⟩,
   ⟨0x107A8, 0x107B0, "ɽ ɾ ʀ ʨ ʦ ꭧ ʧ ʈ ⱱ"⟩, ⟨0x107B2, 0x107BA, "ʏ ʡ ʢ ʘ ǀ ǁ ǂ 𝼊 𝼞"⟩,
   ⟨0x1CCD6, 0x1CCF6, "a b c d e f g h i j k l m n o p q r s t u v w x y z 0 1 2 3 4 5 6"⟩,
   ⟨0x1CCF7, 0x1CCF9, "7 8 9"⟩, ⟨0x1D15E, 0x1D164, "𝅗𝅥 𝅘𝅥 𝅘𝅥𝅮 𝅘𝅥𝅯 𝅘𝅥𝅰 𝅘𝅥𝅱 𝅘𝅥𝅲"⟩,
   ⟨0x1D1BB, 0x1D1C0, "𝆹𝅥 𝆺𝅥 𝆹𝅥𝅮 𝆺𝅥𝅮 𝆹𝅥𝅯 𝆺𝅥𝅯"⟩,
   ⟨0x1D400, 0x1D420, "a b c d e f g h i j k l m n o p q r s t u v w x y z a b c d e f g"⟩,
   ⟨0x1D421, 0x1D441, "h i j k l m n o p q r s t u v w x y z a b c d e f g h i j k l m n"⟩,
   ⟨0x1D442, 0x1D454, "o p q r s t u v w x y z a b c d e f g"⟩,
   ⟨0x1D456, 0x1D476, "i j k l m n o p q r s t u v w x y z a b c d e f g h i j k l m n o"⟩,
   ⟨0x1D477, 0x1D497, "p q r s t u v w x y z a b c d e f g h i j k l m n o p q r s t u v"⟩,
   ⟨0x1D498, 0x1D49C, "w x y z a"⟩, ⟨0x1D49E, 0x1D49F, "c d"⟩, ⟨0x1D4A2, 0x1D4A2, "g"⟩,
   ⟨0x1D4A5, 0x1D4A6, "j k"⟩, ⟨0x1D4A9, 0x1D4AC, "n o p q"⟩,
   ⟨0x1D4AE, 0x1D4B9, "s t u v w x y z a b c d"⟩, ⟨0x1D4BB, 0x1D4BB, "f"⟩,
   ⟨0x1D4BD, 0x1D4C3, "h i j k l m n"⟩,
   ⟨0x1D4C5, 0x1D4E5, "p q r s t u v w x y z a b c d e f g h i j k l m n o p q r s t u v"⟩,
   ⟨0x1D4E6, 0x1D505, "w x y z a b c d e f g h i j k l m n o p q r s t u v w x y z a b"⟩,
   ⟨0x1D507, 0x1D50A, "d e f g"⟩, ⟨0x1D50D, 0x1D514, "j k l m n o p q"⟩,
   ⟨0x1D516, 0x1D51C, "s t u v w x y"⟩,
   ⟨0x1D51E, 0x1D539, "a b c d e f g h i j k l m n o p q r s t u v w x y z a b"⟩,
   ⟨0x1D53B, 0x1D53E, "d e f g"⟩, ⟨0x1D540, 0x1D544, "i j k l m"⟩, ⟨0x1D546, 0x1D546, "o"⟩,
   ⟨0x1D54A, 0x1D550, "s t u v w x y"⟩,
   ⟨0x1D552, 0x1D572, "a b c d e f g h i j k l m n o p q r s t u v w x y z a b c d e f g"⟩,
   ⟨0x1D573, 0x1D593, "h i j k l m n o p q r s t u v w x y z a b c d e f g h i j k l m n"⟩,
   ⟨0x1D594, 0x1D5B4, "o p q r s t u v w x y z a b c d e f g h i j k l m n o p q r s t u"⟩,
   ⟨0x1D5B5, 0x1D5D5, "v w x y z a b c d e f g h i j k l m n o p q r s t u v w x y z a b"⟩,
   ⟨0x1D5D6, 0x1D5F6, "c d e f g h i j k l m n o p q r s t u v w x y z a b c d e f g h i"⟩,
   ⟨0x1D5F7, 0x1D617, "j k l m n o p q r s t u v w x y z a b c d e f g h i j k l m n o p"⟩,
   ⟨0x1D618, 0x1D638, "q r s t u v w x y z a b c d e f g h i j k l m n o p q r s t u v w"⟩,
   ⟨0x1D639, 0x1D659, "x y z a b c d e f g h i j k l m n o p q r s t u v w x y z a b c d"⟩,
   ⟨0x1D65A, 0x1D67A, "e f g h i j k l m n o p q r s t u v w x y z a b c d e f g h i j k"⟩,
   ⟨0x1D67B, 0x1D69B, "l m n o p q r s t u v w x y z a b c d e f g h i j k l m n o p q r"⟩,
   ⟨0x1D69C, 0x1D6A5, "s t u v w x y z ı ȷ"⟩,
   ⟨0x1D6A8, 0x1D6C8, "α β γ δ ε ζ η θ ι κ λ μ ν ξ ο π ρ θ σ τ υ φ χ ψ ω ∇ α β γ δ ε ζ η"⟩,
   ⟨0x1D6C9, 0x1D6E9, "θ ι κ λ μ ν ξ ο π ρ σ σ τ υ φ χ ψ ω ∂ ε θ κ φ ρ π α β γ δ ε ζ η θ"⟩,
   ⟨0x1D6EA, 0x1D70A, "ι κ λ μ ν ξ ο π ρ θ σ τ υ φ χ ψ ω ∇ α β γ δ ε ζ η θ ι κ λ μ ν ξ ο"⟩,
   ⟨0x1D70B, 0x1D72B, "π ρ σ σ τ υ φ χ ψ ω ∂ ε θ κ φ ρ π α β γ δ ε ζ η θ ι κ λ μ ν ξ ο π"⟩,
   ⟨0x1D72C, 0x1D74C, "ρ θ σ τ υ φ χ ψ ω ∇ α β γ δ ε ζ η θ ι κ λ μ ν ξ ο π ρ σ σ τ υ φ χ"⟩,
   ⟨0x1D74D, 0x1D76D, "ψ ω ∂ ε θ κ φ ρ π α β γ δ ε ζ η θ ι κ λ μ ν ξ ο π ρ θ σ τ υ φ χ ψ"⟩,
   ⟨0x1D76E, 0x1D78E, "ω ∇ α β γ δ ε ζ η θ ι κ λ μ ν ξ ο π ρ σ σ τ υ φ χ ψ ω ∂ ε θ κ φ ρ"⟩,
   ⟨0x1D78F, 0x1D7AF, "π α β γ δ ε ζ η θ ι κ λ μ ν ξ ο π ρ θ σ τ υ φ χ ψ ω ∇ α β γ δ ε ζ"⟩,
   ⟨0x1D7B0, 0x1D7CB, "η θ ι κ λ μ ν ξ ο π ρ σ σ τ υ φ χ ψ ω ∂ ε θ κ φ ρ π ϝ ϝ"⟩,
   ⟨0x1D7CE, 0x1D7EE, "0 1 2 3 4 5 6 7 8 9 0 1 2 3 4 5 6 7 8 9 0 1 2 3 4 5 6 7 8 9 0 1 2"⟩,
   ⟨0x1D7EF, 0x1D7FF, "3 4 5 6 7 8 9 0 1 2 3 4 5 6 7 8 9"⟩,
   ⟨0x1E030, 0x1E050, "а б в г д е ж з и к л м о п р с т у ф х ц ч ш ы э ю ꚉ ә і ј ө ү ӏ"⟩,
   ⟨0x1E051, 0x1E06D, "а б в г д е ж з и к л о п с у ф х ц ч ш ъ ы ґ і ѕ џ ҫ ꙑ ұ"⟩,
   ⟨0x1EE00, 0x1EE03, "\u0627 \u0628 \u062c \u062f"⟩,
   ⟨0x1EE05, 0x1EE0D, "\u0648 \u0632 \u062d \u0637 \u064a \u0643 \u0644 \u0645 \u0646"⟩,
   ⟨0x1EE0E, 0x1EE16, "\u0633 \u0639 \u0641 \u0635 \u0642 \u0631 \u0634 \u062a \u062b"⟩,
   ⟨0x1EE17, 0x1EE1F, "\u062e \u0630 \u0636 \u0638 \u063a \u066e \u06ba \u06a1 \u066f"⟩,
   ⟨0x1EE21, 0x1EE22, "\u0628 \u062c"⟩, ⟨0x1EE24, 0x1EE24, "\u0647"⟩, ⟨0x1EE27, 0x1EE27, "\u062d"⟩,
   ⟨0x1EE29, 0x1EE31, "\u064a \u0643 \u0644 \u0645 \u0646 \u0633 \u0639 \u0641 \u0635"⟩,
   ⟨0x1EE32, 0x1EE32, "\u0642"⟩, ⟨0x1EE34, 0x1EE37, "\u0634 \u062a \u062b \u062e"⟩,
   ⟨0x1EE39, 0x1EE39, "\u0636"⟩, ⟨0x1EE3B, 0x1EE3B, "\u063a"⟩, ⟨0x1EE42, 0x1EE42, "\u062c"⟩,
   ⟨0x1EE47, 0x1EE47, "\u062d"⟩, ⟨0x1EE49, 0x1EE49, "\u064a"⟩, ⟨0x1EE4B, 0x1EE4B, "\u0644"⟩,
   ⟨0x1EE4D, 0x1EE4F, "\u0646 \u0633 \u0639"⟩, ⟨0x1EE51, 0x1EE52, "\u0635 \u0642"⟩,
   ⟨0x1EE54, 0x1EE54, "\u0634"⟩, ⟨0x1EE57, 0x1EE57, "\u062e"⟩, ⟨0x1EE59, 0x1EE59, "\u0636"⟩,
   ⟨0x1EE5B, 0x1EE5B, "\u063a"⟩, ⟨0x1EE5D, 0x1EE5D, "\u06ba"⟩, ⟨0x1EE5F, 0x1EE5F, "\u066f"⟩,
   ⟨0x1EE61, 0x1EE62, "\u0628 \u062c"⟩, ⟨0x1EE64, 0x1EE64, "\u0647"⟩,
   ⟨0x1EE67, 0x1EE6A, "\u062d \u0637 \u064a \u0643"⟩,
   ⟨0x1EE6C, 0x1EE72, "\u0645 \u0646 \u0633 \u0639 \u0641 \u0635 \u0642"⟩,
   ⟨0x1EE74, 0x1EE77, "\u0634 \u062a \u062b \u062e"⟩,
   ⟨0x1EE79, 0x1EE7C, "\u0636 \u0638 \u063a \u066e"⟩, ⟨0x1EE7E, 0x1EE7E, "\u06a1"⟩,
   ⟨0x1EE80, 0x1EE88, "\u0627 \u0628 \u062c \u062f \u0647 \u0648 \u0632 \u062d \u0637"⟩,
   ⟨0x1EE89, 0x1EE89, "\u064a"⟩,
   ⟨0x1EE8B, 0x1EE93, "\u0644 \u0645 \u0646 \u0633 \u0639 \u0641 \u0635 \u0642 \u0631"⟩,
   ⟨0x1EE94, 0x1EE9B, "\u0634 \u062a \u062b \u062e \u0630 \u0636 \u0638 \u063a"⟩,
   ⟨0x1EEA1, 0x1EEA3, "\u0628 \u062c \u062f"⟩,
   ⟨0x1EEA5, 0x1EEA9, "\u0648 \u0632 \u062d \u0637 \u064a"⟩,
   ⟨0x1EEAB, 0x1EEB3, "\u0644 \u0645 \u0646 \u0633 \u0639 \u0641 \u0635 \u0642 \u0631"⟩,
   ⟨0x1EEB4, 0x1EEBB, "\u0634 \u062a \u062b \u062e \u0630 \u0636 \u0638 \u063a"⟩,
   ⟨0x1F101, 0x1F10A, "0, 1, 2, 3, 4, 5, 6, 7, 8, 9,"⟩,
   ⟨0x1F110, 0x1F11F, "(a) (b) (c) (d) (e) (f) (g) (h) (i) (j) (k) (l) (m) (n) (o) (p)"⟩,
   ⟨0x1F120, 0x1F12E, "(q) (r) (s) (t) (u) (v) (w) (x) (y) (z) 〔s〕 c r cd wz"⟩,
   ⟨0x1F130, 0x1F14D, "a b c d e f g h i j k l m n o p q r s t u v w x y z hv mv sd ss"⟩,
   ⟨0x1F14E, 0x1F14F, "ppv wc"⟩, ⟨0x1F16A, 0x1F16C, "mc md mr"⟩, ⟨0x1F190, 0x1F190, "dj"⟩,
   ⟨0x1FBF0, 0x1FBF9, "0 1 2 3 4 5 6 7 8 9"⟩]

end RecordSql.Url.Domain
