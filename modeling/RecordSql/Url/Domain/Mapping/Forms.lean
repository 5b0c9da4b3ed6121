import RecordSql.Url.Domain.Mapping.Block

/-! # Presentation forms

Ligatures, positional forms, and characters of half and full width, with the letters that a domain
holds for them.
-/

namespace RecordSql.Url.Domain

def forms : List Block :=
  [⟨0xFB00, 0xFB06, "ff fi fl ffi ffl st st"⟩, ⟨0xFB13, 0xFB17, "մն մե մի վն մխ"⟩,
   ⟨0xFB1D, 0xFB1D, "\u05d9\u05b4"⟩,
   ⟨0xFB1F, 0xFB26, "\u05f2\u05b7 \u05e2 \u05d0 \u05d3 \u05d4 \u05db \u05dc \u05dd"⟩,
   ⟨0xFB27, 0xFB2C, "\u05e8 \u05ea + \u05e9\u05c1 \u05e9\u05c2 \u05e9\u05bc\u05c1"⟩,
   ⟨0xFB2D, 0xFB30, "\u05e9\u05bc\u05c2 \u05d0\u05b7 \u05d0\u05b8 \u05d0\u05bc"⟩,
   ⟨0xFB31, 0xFB35, "\u05d1\u05bc \u05d2\u05bc \u05d3\u05bc \u05d4\u05bc \u05d5\u05bc"⟩,
   ⟨0xFB36, 0xFB36, "\u05d6\u05bc"⟩,
   ⟨0xFB38, 0xFB3C, "\u05d8\u05bc \u05d9\u05bc \u05da\u05bc \u05db\u05bc \u05dc\u05bc"⟩,
   ⟨0xFB3E, 0xFB3E, "\u05de\u05bc"⟩, ⟨0xFB40, 0xFB41, "\u05e0\u05bc \u05e1\u05bc"⟩,
   ⟨0xFB43, 0xFB44, "\u05e3\u05bc \u05e4\u05bc"⟩,
   ⟨0xFB46, 0xFB4A, "\u05e6\u05bc \u05e7\u05bc \u05e8\u05bc \u05e9\u05bc \u05ea\u05bc"⟩,
   ⟨0xFB4B, 0xFB4F, "\u05d5\u05b9 \u05d1\u05bf \u05db\u05bf \u05e4\u05bf \u05d0\u05dc"⟩,
   ⟨0xFB50, 0xFB58, "\u0671 \u0671 \u067b \u067b \u067b \u067b \u067e \u067e \u067e"⟩,
   ⟨0xFB59, 0xFB61, "\u067e \u0680 \u0680 \u0680 \u0680 \u067a \u067a \u067a \u067a"⟩,
   ⟨0xFB62, 0xFB6A, "\u067f \u067f \u067f \u067f \u0679 \u0679 \u0679 \u0679 \u06a4"⟩,
   ⟨0xFB6B, 0xFB73, "\u06a4 \u06a4 \u06a4 \u06a6 \u06a6 \u06a6 \u06a6 \u0684 \u0684"⟩,
   ⟨0xFB74, 0xFB7C, "\u0684 \u0684 \u0683 \u0683 \u0683 \u0683 \u0686 \u0686 \u0686"⟩,
   ⟨0xFB7D, 0xFB85, "\u0686 \u0687 \u0687 \u0687 \u0687 \u068d \u068d \u068c \u068c"⟩,
   ⟨0xFB86, 0xFB8E, "\u068e \u068e \u0688 \u0688 \u0698 \u0698 \u0691 \u0691 \u06a9"⟩,
   ⟨0xFB8F, 0xFB97, "\u06a9 \u06a9 \u06a9 \u06af \u06af \u06af \u06af \u06b3 \u06b3"⟩,
   ⟨0xFB98, 0xFBA0, "\u06b3 \u06b3 \u06b1 \u06b1 \u06b1 \u06b1 \u06ba \u06ba \u06bb"⟩,
   ⟨0xFBA1, 0xFBA9, "\u06bb \u06bb \u06bb \u06c0 \u06c0 \u06c1 \u06c1 \u06c1 \u06c1"⟩,
   ⟨0xFBAA, 0xFBB1, "\u06be \u06be \u06be \u06be \u06d2 \u06d2 \u06d3 \u06d3"⟩,
   ⟨0xFBD3, 0xFBDB, "\u06ad \u06ad \u06ad \u06ad \u06c7 \u06c7 \u06c6 \u06c6 \u06c8"⟩,
   ⟨0xFBDC, 0xFBE3, "\u06c8 \u06c7\u0674 \u06cb \u06cb \u06c5 \u06c5 \u06c9 \u06c9"⟩,
   ⟨0xFBE4, 0xFBEA, "\u06d0 \u06d0 \u06d0 \u06d0 \u0649 \u0649 \u0626\u0627"⟩,
   ⟨0xFBEB, 0xFBEF, "\u0626\u0627 \u0626\u06d5 \u0626\u06d5 \u0626\u0648 \u0626\u0648"⟩,
   ⟨0xFBF0, 0xFBF4, "\u0626\u06c7 \u0626\u06c7 \u0626\u06c6 \u0626\u06c6 \u0626\u06c8"⟩,
   ⟨0xFBF5, 0xFBF9, "\u0626\u06c8 \u0626\u06d0 \u0626\u06d0 \u0626\u06d0 \u0626\u0649"⟩,
   ⟨0xFBFA, 0xFC00, "\u0626\u0649 \u0626\u0649 \u06cc \u06cc \u06cc \u06cc \u0626\u062c"⟩,
   ⟨0xFC01, 0xFC05, "\u0626\u062d \u0626\u0645 \u0626\u0649 \u0626\u064a \u0628\u062c"⟩,
   ⟨0xFC06, 0xFC0A, "\u0628\u062d \u0628\u062e \u0628\u0645 \u0628\u0649 \u0628\u064a"⟩,
   ⟨0xFC0B, 0xFC0F, "\u062a\u062c \u062a\u062d \u062a\u062e \u062a\u0645 \u062a\u0649"⟩,
   ⟨0xFC10, 0xFC14, "\u062a\u064a \u062b\u062c \u062b\u0645 \u062b\u0649 \u062b\u064a"⟩,
   ⟨0xFC15, 0xFC19, "\u062c\u062d \u062c\u0645 \u062d\u062c \u062d\u0645 \u062e\u062c"⟩,
   ⟨0xFC1A, 0xFC1E, "\u062e\u062d \u062e\u0645 \u0633\u062c \u0633\u062d \u0633\u062e"⟩,
   ⟨0xFC1F, 0xFC23, "\u0633\u0645 \u0635\u062d \u0635\u0645 \u0636\u062c \u0636\u062d"⟩,
   ⟨0xFC24, 0xFC28, "\u0636\u062e \u0636\u0645 \u0637\u062d \u0637\u0645 \u0638\u0645"⟩,
   ⟨0xFC29, 0xFC2D, "\u0639\u062c \u0639\u0645 \u063a\u062c \u063a\u0645 \u0641\u062c"⟩,
   ⟨0xFC2E, 0xFC32, "\u0641\u062d \u0641\u062e \u0641\u0645 \u0641\u0649 \u0641\u064a"⟩,
   ⟨0xFC33, 0xFC37, "\u0642\u062d \u0642\u0645 \u0642\u0649 \u0642\u064a \u0643\u0627"⟩,
   ⟨0xFC38, 0xFC3C, "\u0643\u062c \u0643\u062d \u0643\u062e \u0643\u0644 \u0643\u0645"⟩,
   ⟨0xFC3D, 0xFC41, "\u0643\u0649 \u0643\u064a \u0644\u062c \u0644\u062d \u0644\u062e"⟩,
   ⟨0xFC42, 0xFC46, "\u0644\u0645 \u0644\u0649 \u0644\u064a \u0645\u062c \u0645\u062d"⟩,
   ⟨0xFC47, 0xFC4B, "\u0645\u062e \u0645\u0645 \u0645\u0649 \u0645\u064a \u0646\u062c"⟩,
   ⟨0xFC4C, 0xFC50, "\u0646\u062d \u0646\u062e \u0646\u0645 \u0646\u0649 \u0646\u064a"⟩,
   ⟨0xFC51, 0xFC55, "\u0647\u062c \u0647\u0645 \u0647\u0649 \u0647\u064a \u064a\u062c"⟩,
   ⟨0xFC56, 0xFC5A, "\u064a\u062d \u064a\u062e \u064a\u0645 \u064a\u0649 \u064a\u064a"⟩,
   ⟨0xFC5B, 0xFC5D, "\u0630\u0670 \u0631\u0670 \u0649\u0670"⟩,
   ⟨0xFC64, 0xFC68, "\u0626\u0631 \u0626\u0632 \u0626\u0645 \u0626\u0646 \u0626\u0649"⟩,
   ⟨0xFC69, 0xFC6D, "\u0626\u064a \u0628\u0631 \u0628\u0632 \u0628\u0645 \u0628\u0646"⟩,
   ⟨0xFC6E, 0xFC72, "\u0628\u0649 \u0628\u064a \u062a\u0631 \u062a\u0632 \u062a\u0645"⟩,
   ⟨0xFC73, 0xFC77, "\u062a\u0646 \u062a\u0649 \u062a\u064a \u062b\u0631 \u062b\u0632"⟩,
   ⟨0xFC78, 0xFC7C, "\u062b\u0645 \u062b\u0646 \u062b\u0649 \u062b\u064a \u0641\u0649"⟩,
   ⟨0xFC7D, 0xFC81, "\u0641\u064a \u0642\u0649 \u0642\u064a \u0643\u0627 \u0643\u0644"⟩,
   ⟨0xFC82, 0xFC86, "\u0643\u0645 \u0643\u0649 \u0643\u064a \u0644\u0645 \u0644\u0649"⟩,
   ⟨0xFC87, 0xFC8B, "\u0644\u064a \u0645\u0627 \u0645\u0645 \u0646\u0631 \u0646\u0632"⟩,
   ⟨0xFC8C, 0xFC90, "\u0646\u0645 \u0646\u0646 \u0646\u0649 \u0646\u064a \u0649\u0670"⟩,
   ⟨0xFC91, 0xFC95, "\u064a\u0631 \u064a\u0632 \u064a\u0645 \u064a\u0646 \u064a\u0649"⟩,
   ⟨0xFC96, 0xFC9A, "\u064a\u064a \u0626\u062c \u0626\u062d \u0626\u062e \u0626\u0645"⟩,
   ⟨0xFC9B, 0xFC9F, "\u0626\u0647 \u0628\u062c \u0628\u062d \u0628\u062e \u0628\u0645"⟩,
   ⟨0xFCA0, 0xFCA4, "\u0628\u0647 \u062a\u062c \u062a\u062d \u062a\u062e \u062a\u0645"⟩,
   ⟨0xFCA5, 0xFCA9, "\u062a\u0647 \u062b\u0645 \u062c\u062d \u062c\u0645 \u062d\u062c"⟩,
   ⟨0xFCAA, 0xFCAE, "\u062d\u0645 \u062e\u062c \u062e\u0645 \u0633\u062c \u0633\u062d"⟩,
   ⟨0xFCAF, 0xFCB3, "\u0633\u062e \u0633\u0645 \u0635\u062d \u0635\u062e \u0635\u0645"⟩,
   ⟨0xFCB4, 0xFCB8, "\u0636\u062c \u0636\u062d \u0636\u062e \u0636\u0645 \u0637\u062d"⟩,
   ⟨0xFCB9, 0xFCBD, "\u0638\u0645 \u0639\u062c \u0639\u0645 \u063a\u062c \u063a\u0645"⟩,
   ⟨0xFCBE, 0xFCC2, "\u0641\u062c \u0641\u062d \u0641\u062e \u0641\u0645 \u0642\u062d"⟩,
   ⟨0xFCC3, 0xFCC7, "\u0642\u0645 \u0643\u062c \u0643\u062d \u0643\u062e \u0643\u0644"⟩,
   ⟨0xFCC8, 0xFCCC, "\u0643\u0645 \u0644\u062c \u0644\u062d \u0644\u062e \u0644\u0645"⟩,
   ⟨0xFCCD, 0xFCD1, "\u0644\u0647 \u0645\u062c \u0645\u062d \u0645\u062e \u0645\u0645"⟩,
   ⟨0xFCD2, 0xFCD6, "\u0646\u062c \u0646\u062d \u0646\u062e \u0646\u0645 \u0646\u0647"⟩,
   ⟨0xFCD7, 0xFCDB, "\u0647\u062c \u0647\u0645 \u0647\u0670 \u064a\u062c \u064a\u062d"⟩,
   ⟨0xFCDC, 0xFCE0, "\u064a\u062e \u064a\u0645 \u064a\u0647 \u0626\u0645 \u0626\u0647"⟩,
   ⟨0xFCE1, 0xFCE5, "\u0628\u0645 \u0628\u0647 \u062a\u0645 \u062a\u0647 \u062b\u0645"⟩,
   ⟨0xFCE6, 0xFCEA, "\u062b\u0647 \u0633\u0645 \u0633\u0647 \u0634\u0645 \u0634\u0647"⟩,
   ⟨0xFCEB, 0xFCEF, "\u0643\u0644 \u0643\u0645 \u0644\u0645 \u0646\u0645 \u0646\u0647"⟩,
   ⟨0xFCF0, 0xFCF3, "\u064a\u0645 \u064a\u0647 \u0640\u064e\u0651 \u0640\u064f\u0651"⟩,
   ⟨0xFCF4, 0xFCF7, "\u0640\u0650\u0651 \u0637\u0649 \u0637\u064a \u0639\u0649"⟩,
   ⟨0xFCF8, 0xFCFC, "\u0639\u064a \u063a\u0649 \u063a\u064a \u0633\u0649 \u0633\u064a"⟩,
   ⟨0xFCFD, 0xFD01, "\u0634\u0649 \u0634\u064a \u062d\u0649 \u062d\u064a \u062c\u0649"⟩,
   ⟨0xFD02, 0xFD06, "\u062c\u064a \u062e\u0649 \u062e\u064a \u0635\u0649 \u0635\u064a"⟩,
   ⟨0xFD07, 0xFD0B, "\u0636\u0649 \u0636\u064a \u0634\u062c \u0634\u062d \u0634\u062e"⟩,
   ⟨0xFD0C, 0xFD10, "\u0634\u0645 \u0634\u0631 \u0633\u0631 \u0635\u0631 \u0636\u0631"⟩,
   ⟨0xFD11, 0xFD15, "\u0637\u0649 \u0637\u064a \u0639\u0649 \u0639\u064a \u063a\u0649"⟩,
   ⟨0xFD16, 0xFD1A, "\u063a\u064a \u0633\u0649 \u0633\u064a \u0634\u0649 \u0634\u064a"⟩,
   ⟨0xFD1B, 0xFD1F, "\u062d\u0649 \u062d\u064a \u062c\u0649 \u062c\u064a \u062e\u0649"⟩,
   ⟨0xFD20, 0xFD24, "\u062e\u064a \u0635\u0649 \u0635\u064a \u0636\u0649 \u0636\u064a"⟩,
   ⟨0xFD25, 0xFD29, "\u0634\u062c \u0634\u062d \u0634\u062e \u0634\u0645 \u0634\u0631"⟩,
   ⟨0xFD2A, 0xFD2E, "\u0633\u0631 \u0635\u0631 \u0636\u0631 \u0634\u062c \u0634\u062d"⟩,
   ⟨0xFD2F, 0xFD33, "\u0634\u062e \u0634\u0645 \u0633\u0647 \u0634\u0647 \u0637\u0645"⟩,
   ⟨0xFD34, 0xFD38, "\u0633\u062c \u0633\u062d \u0633\u062e \u0634\u062c \u0634\u062d"⟩,
   ⟨0xFD39, 0xFD3D, "\u0634\u062e \u0637\u0645 \u0638\u0645 \u0627\u064b \u0627\u064b"⟩,
   ⟨0xFD50, 0xFD52, "\u062a\u062c\u0645 \u062a\u062d\u062c \u062a\u062d\u062c"⟩,
   ⟨0xFD53, 0xFD55, "\u062a\u062d\u0645 \u062a\u062e\u0645 \u062a\u0645\u062c"⟩,
   ⟨0xFD56, 0xFD58, "\u062a\u0645\u062d \u062a\u0645\u062e \u062c\u0645\u062d"⟩,
   ⟨0xFD59, 0xFD5B, "\u062c\u0645\u062d \u062d\u0645\u064a \u062d\u0645\u0649"⟩,
   ⟨0xFD5C, 0xFD5E, "\u0633\u062d\u062c \u0633\u062c\u062d \u0633\u062c\u0649"⟩,
   ⟨0xFD5F, 0xFD61, "\u0633\u0645\u062d \u0633\u0645\u062d \u0633\u0645\u062c"⟩,
   ⟨0xFD62, 0xFD64, "\u0633\u0645\u0645 \u0633\u0645\u0645 \u0635\u062d\u062d"⟩,
   ⟨0xFD65, 0xFD67, "\u0635\u062d\u062d \u0635\u0645\u0645 \u0634\u062d\u0645"⟩,
   ⟨0xFD68, 0xFD6A, "\u0634\u062d\u0645 \u0634\u062c\u064a \u0634\u0645\u062e"⟩,
   ⟨0xFD6B, 0xFD6D, "\u0634\u0645\u062e \u0634\u0645\u0645 \u0634\u0645\u0645"⟩,
   ⟨0xFD6E, 0xFD70, "\u0636\u062d\u0649 \u0636\u062e\u0645 \u0636\u062e\u0645"⟩,
   ⟨0xFD71, 0xFD73, "\u0637\u0645\u062d \u0637\u0645\u062d \u0637\u0645\u0645"⟩,
   ⟨0xFD74, 0xFD76, "\u0637\u0645\u064a \u0639\u062c\u0645 \u0639\u0645\u0645"⟩,
   ⟨0xFD77, 0xFD79, "\u0639\u0645\u0645 \u0639\u0645\u0649 \u063a\u0645\u0645"⟩,
   ⟨0xFD7A, 0xFD7C, "\u063a\u0645\u064a \u063a\u0645\u0649 \u0641\u062e\u0645"⟩,
   ⟨0xFD7D, 0xFD7F, "\u0641\u062e\u0645 \u0642\u0645\u062d \u0642\u0645\u0645"⟩,
   ⟨0xFD80, 0xFD82, "\u0644\u062d\u0645 \u0644\u062d\u064a \u0644\u062d\u0649"⟩,
   ⟨0xFD83, 0xFD85, "\u0644\u062c\u062c \u0644\u062c\u062c \u0644\u062e\u0645"⟩,
   ⟨0xFD86, 0xFD88, "\u0644\u062e\u0645 \u0644\u0645\u062d \u0644\u0645\u062d"⟩,
   ⟨0xFD89, 0xFD8B, "\u0645\u062d\u062c \u0645\u062d\u0645 \u0645\u062d\u064a"⟩,
   ⟨0xFD8C, 0xFD8E, "\u0645\u062c\u062d \u0645\u062c\u0645 \u0645\u062e\u062c"⟩,
   ⟨0xFD8F, 0xFD8F, "\u0645\u062e\u0645"⟩,
   ⟨0xFD92, 0xFD94, "\u0645\u062c\u062e \u0647\u0645\u062c \u0647\u0645\u0645"⟩,
   ⟨0xFD95, 0xFD97, "\u0646\u062d\u0645 \u0646\u062d\u0649 \u0646\u062c\u0645"⟩,
   ⟨0xFD98, 0xFD9A, "\u0646\u062c\u0645 \u0646\u062c\u0649 \u0646\u0645\u064a"⟩,
   ⟨0xFD9B, 0xFD9D, "\u0646\u0645\u0649 \u064a\u0645\u0645 \u064a\u0645\u0645"⟩,
   ⟨0xFD9E, 0xFDA0, "\u0628\u062e\u064a \u062a\u062c\u064a \u062a\u062c\u0649"⟩,
   ⟨0xFDA1, 0xFDA3, "\u062a\u062e\u064a \u062a\u062e\u0649 \u062a\u0645\u064a"⟩,
   ⟨0xFDA4, 0xFDA6, "\u062a\u0645\u0649 \u062c\u0645\u064a \u062c\u062d\u0649"⟩,
   ⟨0xFDA7, 0xFDA9, "\u062c\u0645\u0649 \u0633\u062e\u0649 \u0635\u062d\u064a"⟩,
   ⟨0xFDAA, 0xFDAC, "\u0634\u062d\u064a \u0636\u062d\u064a \u0644\u062c\u064a"⟩,
   ⟨0xFDAD, 0xFDAF, "\u0644\u0645\u064a \u064a\u062d\u064a \u064a\u062c\u064a"⟩,
   ⟨0xFDB0, 0xFDB2, "\u064a\u0645\u064a \u0645\u0645\u064a \u0642\u0645\u064a"⟩,
   ⟨0xFDB3, 0xFDB5, "\u0646\u062d\u064a \u0642\u0645\u062d \u0644\u062d\u0645"⟩,
   ⟨0xFDB6, 0xFDB8, "\u0639\u0645\u064a \u0643\u0645\u064a \u0646\u062c\u062d"⟩,
   ⟨0xFDB9, 0xFDBB, "\u0645\u062e\u064a \u0644\u062c\u0645 \u0643\u0645\u0645"⟩,
   ⟨0xFDBC, 0xFDBE, "\u0644\u062c\u0645 \u0646\u062c\u062d \u062c\u062d\u064a"⟩,
   ⟨0xFDBF, 0xFDC1, "\u062d\u062c\u064a \u0645\u062c\u064a \u0641\u0645\u064a"⟩,
   ⟨0xFDC2, 0xFDC4, "\u0628\u062d\u064a \u0643\u0645\u0645 \u0639\u062c\u0645"⟩,
   ⟨0xFDC5, 0xFDC7, "\u0635\u0645\u0645 \u0633\u062e\u064a \u0646\u062c\u064a"⟩,
   ⟨0xFDF0, 0xFDF2, "\u0635\u0644\u06d2 \u0642\u0644\u06d2 \u0627\u0644\u0644\u0647"⟩,
   ⟨0xFDF3, 0xFDF4, "\u0627\u0643\u0628\u0631 \u0645\u062d\u0645\u062f"⟩,
   ⟨0xFDF5, 0xFDF6, "\u0635\u0644\u0639\u0645 \u0631\u0633\u0648\u0644"⟩,
   ⟨0xFDF7, 0xFDF8, "\u0639\u0644\u064a\u0647 \u0648\u0633\u0644\u0645"⟩,
   ⟨0xFDF9, 0xFDF9, "\u0635\u0644\u0649"⟩, ⟨0xFDFC, 0xFDFC, "\u0631\u06cc\u0627\u0644"⟩,
   ⟨0xFE10, 0xFE11, ", 、"⟩, ⟨0xFE13, 0xFE18, ": ; ! ? 〖 〗"⟩,
   ⟨0xFE31, 0xFE44, "— – _ _ ( ) \x7b \x7d 〔 〕 【 】 《 》 〈 〉 「 」 『 』"⟩, ⟨0xFE47, 0xFE48, "[ ]"⟩,
   ⟨0xFE4D, 0xFE51, "_ _ _ , 、"⟩, ⟨0xFE54, 0xFE66, "; : ? ! — ( ) \x7b \x7d 〔 〕 # & * + - < > ="⟩,
   ⟨0xFE68, 0xFE6B, "\x5c $ % @"⟩, ⟨0xFE71, 0xFE71, "\u0640\u064b"⟩,
   ⟨0xFE77, 0xFE77, "\u0640\u064e"⟩, ⟨0xFE79, 0xFE79, "\u0640\u064f"⟩,
   ⟨0xFE7B, 0xFE7B, "\u0640\u0650"⟩, ⟨0xFE7D, 0xFE7D, "\u0640\u0651"⟩,
   ⟨0xFE7F, 0xFE86, "\u0640\u0652 \u0621 \u0622 \u0622 \u0623 \u0623 \u0624 \u0624"⟩,
   ⟨0xFE87, 0xFE8F, "\u0625 \u0625 \u0626 \u0626 \u0626 \u0626 \u0627 \u0627 \u0628"⟩,
   ⟨0xFE90, 0xFE98, "\u0628 \u0628 \u0628 \u0629 \u0629 \u062a \u062a \u062a \u062a"⟩,
   ⟨0xFE99, 0xFEA1, "\u062b \u062b \u062b \u062b \u062c \u062c \u062c \u062c \u062d"⟩,
   ⟨0xFEA2, 0xFEAA, "\u062d \u062d \u062d \u062e \u062e \u062e \u062e \u062f \u062f"⟩,
   ⟨0xFEAB, 0xFEB3, "\u0630 \u0630 \u0631 \u0631 \u0632 \u0632 \u0633 \u0633 \u0633"⟩,
   ⟨0xFEB4, 0xFEBC, "\u0633 \u0634 \u0634 \u0634 \u0634 \u0635 \u0635 \u0635 \u0635"⟩,
   ⟨0xFEBD, 0xFEC5, "\u0636 \u0636 \u0636 \u0636 \u0637 \u0637 \u0637 \u0637 \u0638"⟩,
   ⟨0xFEC6, 0xFECE, "\u0638 \u0638 \u0638 \u0639 \u0639 \u0639 \u0639 \u063a \u063a"⟩,
   ⟨0xFECF, 0xFED7, "\u063a \u063a \u0641 \u0641 \u0641 \u0641 \u0642 \u0642 \u0642"⟩,
   ⟨0xFED8, 0xFEE0, "\u0642 \u0643 \u0643 \u0643 \u0643 \u0644 \u0644 \u0644 \u0644"⟩,
   ⟨0xFEE1, 0xFEE9, "\u0645 \u0645 \u0645 \u0645 \u0646 \u0646 \u0646 \u0646 \u0647"⟩,
   ⟨0xFEEA, 0xFEF2, "\u0647 \u0647 \u0647 \u0648 \u0648 \u0649 \u0649 \u064a \u064a"⟩,
   ⟨0xFEF3, 0xFEF8, "\u064a \u064a \u0644\u0622 \u0644\u0622 \u0644\u0623 \u0644\u0623"⟩,
   ⟨0xFEF9, 0xFEFC, "\u0644\u0625 \u0644\u0625 \u0644\u0627 \u0644\u0627"⟩,
   ⟨0xFF01, 0xFF1E, "! \x22 # $ % & \x27 ( ) * + , - . / 0 1 2 3 4 5 6 7 8 9 : ; < = >"⟩,
   ⟨0xFF1F, 0xFF3E, "? @ a b c d e f g h i j k l m n o p q r s t u v w x y z [ \x5c ] ^"⟩,
   ⟨0xFF3F, 0xFF5C, "_ \x60 a b c d e f g h i j k l m n o p q r s t u v w x y z \x7b |"⟩,
   ⟨0xFF5D, 0xFF7C, "\x7d ~ ⦅ ⦆ . 「 」 、 ・ ヲ ァ ィ ゥ ェ ォ ャ ュ ョ ッ ー ア イ ウ エ オ カ キ ク ケ コ サ シ"⟩,
   ⟨0xFF7D, 0xFF9D, "ス セ ソ タ チ ツ テ ト ナ ニ ヌ ネ ノ ハ ヒ フ ヘ ホ マ ミ ム メ モ ヤ ユ ヨ ラ リ ル レ ロ ワ ン"⟩,
   ⟨0xFF9E, 0xFF9F, "\u3099 \u309a"⟩,
   ⟨0xFFA1, 0xFFBE, "ᄀ ᄁ ᆪ ᄂ ᆬ ᆭ ᄃ ᄄ ᄅ ᆰ ᆱ ᆲ ᆳ ᆴ ᆵ ᄚ ᄆ ᄇ ᄈ ᄡ ᄉ ᄊ ᄋ ᄌ ᄍ ᄎ ᄏ ᄐ ᄑ ᄒ"⟩,
   ⟨0xFFC2, 0xFFC7, "ᅡ ᅢ ᅣ ᅤ ᅥ ᅦ"⟩, ⟨0xFFCA, 0xFFCF, "ᅧ ᅨ ᅩ ᅪ ᅫ ᅬ"⟩,
   ⟨0xFFD2, 0xFFD7, "ᅭ ᅮ ᅯ ᅰ ᅱ ᅲ"⟩, ⟨0xFFDA, 0xFFDC, "ᅳ ᅴ ᅵ"⟩, ⟨0xFFE0, 0xFFE2, "¢ £ ¬"⟩,
   ⟨0xFFE4, 0xFFE6, "¦ ¥ ₩"⟩, ⟨0xFFE8, 0xFFEE, "│ ← ↑ → ↓ ■ ○"⟩]

end RecordSql.Url.Domain
