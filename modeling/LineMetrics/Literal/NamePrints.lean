/-!
# Prints of the names of characters

Every character has a name, and the names of Unicode 14 would fill a book.  A name is told from
other words by its print, a number below 2 ^ 30 that is made of all its letters.  The prints stand
in 4096 rows, one for each value of the twelve high bits, with a blank between two rows.  A row
holds the other eighteen bits of its prints, as three digits to the base 64 each: `0` to `9`, `A` to
`Z`, `a` to `z`, `+` and `-`.  Names made by a rule, such as those of ideographs, are not among
them.
-/

namespace LineMetrics
namespace Literal

/-- Part 1 of the rows of prints. -/
def printLinesA : List String :=
  ["3LF3Nb3Nd3NfTVxa3ul1LpR-tQUtQa 0af0iM82KDBVUm8rLw FSnNbISXrUQGa6atKV FQYFyZQ5tQPNaV0iZUkSW boH",
   "xOB Sjnthm 6R7SqbUwamMZnHT 2kY45cNwHSB2aLDcMjjOCm5Lx-1 DoMDuIFu6GTcKQce9WgKV Z3Dd4njiN 4NgDnEa",
   "VccbJi97uEfv2V FA0kztsedyoQ 3tZ9tVAJADOJHEHef4gVbqSm DS1bD2ieF+zE JQBOefiNimdeokboqboqhsnZ H-Z",
   "NbUiEX+l+ 2C+89tILRKfDNiKNtbNtcNtxfpNnS9 ElDHkgHkrL09RbgVNslvi TQPVv5WWzZPfcHOh96 Mc2Rk1jzouUJ",
   " 5ELA1SHuchvJiCNoTT 3D95lycL8lAonAg KfoO06pXPsZn AYoMXNTXgX1obQ7guAuPGyYnyYryYvyY-yZ5+50 czNrE",
   "XvWE 3Ni7xR8J9jQ1r3o 8orQo+VvDoZXyB4 EqJGIcXJVpRA B+SMuPMuXl63oMAoW7 GeTMVOV7NsSkyxu 0QZnPv 5b",
   "kNs1YGwll- YP9kzKyyVzwP+P8 A71Ag3JkYJkcJkgL6LTLufrxn4xsrjzt5 2SetBRvtHysh 3HtKntMJFOIXOIlbYwvl",
   "ovyX I9dXdI 7vf7vj7vn7vt7vzBLgHPBHUxJtAbD+hbRvbmweV WI+-Zt CRaR+AfM2qljwacwafwai 8Mzmc+o2StrWx",
   "yExyFxyG IttooWrxoxxm p5C 0ak0aw7TFD1pMkNT9mVI+VxVhvY 8-+T+coryvDY 0waBtoDW4Nsgt-f NInNjgQRbcB",
   "tltK 5ljH7XZpr 9-kEIIK9IUpobJZicnzKz UTOWaVi+tpT1+0U 8f5EP7EPBEPFEPLEPRPnrTuDZcRcFjn4XuhY M-pc",
   "wwfnJj-dm4O AHlAHpAHtAHzhDwroAypc 6vlDH0IcRImLQPWkKdkYpzdQ+Ul 3OIS-+ew5 FaoRIqTM9i-ul7RmpM 9Fh",
   "PFTfxDgm7oJ1uUsxp9 6lUG4qG4rL-ie0C 6PimnLxQR HzacrKeGbiDViDZiDdiDjiDpiDrspr+lt TbZU4GX0td6Ni+s",
   "lHrwub BjQETYPj7cNMehis18 5HsRrElQNlQY 52oWH-XagXbCdFtsES 27O2Aql1alLxlLylLzlL+lL-lM0lM1lM2 Jt",
   "PaD4hkhtitxdM 3sm3snE1uGIUVpxpT5wQP 1jjGonwuv 50hClYDz+P5TZAZoIGrhG 98UYRbZRih7Vt-q-qr-zX 29b9",
   "vpSB+n27nmG 57sbu4sLw 2soK0+MiSNJch1Tpj9y7XzNA 1pICm0HxZHxaLVbLVjLVvP7EYOEol2otrvv7 0HV1HZAm5F",
   "s0PH-fFThpvk7ZpSgyAq 7O1KSNaE6fKxy8Z 1jzHO1WjZkQm-zI 8rT9eeA+GCRiPS5n88x-1yj+yk2yk6yk8 c7Br+v ",
   "3azHAbJTqj8Cs2euSPyQJ-bm 5ZzDE9KQrVhwjh5mHQvaQznh 5A19-CGK9aHnblGfOvgI7sJK 3sB9y0N6HPVSTgCqD+ ",
   "AYjN-KOh4YmsgoepklrRF 0E3Q9uaGufD6lotnwk-fb 2XV9qQTFBXazjrL 3yW8PcHrinG7-nG ITgL7ddtonZD Lfol7",
   "Rukn WQRgEfxY2zT5--k G3+VKjc66ouLrBN NPUS0vWHglywmHOzPr+0p cQEiHv 3UIEIS BAcnHK G9yGgQOiObG8eT",
   "4kKjm-TofJtb2 4h18DzCI5ELtLFgceAqVjx9P D2FTGnZ0sbHTd8hr5Z R7YXxYm8XoT7pcl 2mx6ax6a-6b56bBKa-hA",
   "PqraxAU 2Uw3NmEiYOdNSxMTiTaqQllZul3 3tu6osC5+OzsVOi FIcGDMPjjRnBb+LmlCuS2ws5 bH4mtosOKse5vq0 1",
   "js4cp5fC61t7RDHeib9bgfbrpsuNF 15G5Xe8NFI+VQyDWrnp8htf- 687Wk-ib1lHjmeLuwCzr1 4XNNzrQRYYzIgn0s+",
   "e 5+JJZhNO8vNp 1jvnRJ AtcFx+IK8LHMWk8nBbo1bvIXzc4 AMsDQuOIHO-rRFJUjeUjmUjsUw3iSR 7icMjQZdXgJPq",
   "Ye 4dH8gZFfEKC8fGg 3Hc62dKtBqvjyJn 1Gv8rPJ36XKTvU2 TWPd1SpBzpC8pCCpCG DaaFFFHsRt1O+vC 90EBnYFg",
   "uFwIGroJfqJfuJfyJg1Jg2Jg8Nvftfn 7C9BnaJPhM8LZ7ncJsjd5mCqz0P 7uP8EiEgVIEAIGUl7Vu3m 4f07TOAtIB+H",
   "D1UHXSN3BNtu 0+a2cXLhnabtfh0qgrxLCxfp 3XH7Yc9TvMikb+LuKT 4b4Y4ulZAtqcxsc JoMLkgYAoYAsYAwnIKslO",
   " 1mF1mK1mQEAkL43bXMcRvomrp5UpVbveb 52YX4Tyhu+O0 BsYJzMKodTK-TnTiPLwL- FcCG02N1OOdV ZdI 4tEQNnk",
   "Iyn8R 0AgQ+AVCzoYDqFBy5K 5gxBARG5BLPhPaQWBiW+WYa6f9wqPa 110FtkFtsFu2GKTHPUL6MOaPOaXOajP5QW2DgQ",
   "BmPmw1L 4axJ0VSWejajjaullUmLSxDEyDs 8Ved0b 1Y1YEsYEwYF6fjshNNrA3-EB BvOCjSYYdowOxjS B4PFY-WtjY",
   "OGgaRh+Hi2Qi2Ui2Yiq4sNusSGxQf BCLEY1JwWJwaJweJwkJwqN9qUdRhlP 1sWE7gE-3FaQFagj+9j+Dj+Hrujt24ucS",
   "wvf 02R0sV1eFhWZikOlsVwMw 0OGEzlXxHeGMeGNeGOkLjoyl 4k1AKwCCFFlCV7FV7JV7PV7VV80jKs mQwqBUq-YyaA",
   "zo7 6x6NUdRNotRH SPQ+0g DMEFbjJD5StVStWStXStYStZStaStbStcStdZOEmHin6tvkJyD1 7+lHYBHbCSfNSfRSfV",
   "TcYaI+eKr 9Q1HVIHplRCvZu0svny8b+9A GYUL4JnyB 7PuH0XH0YH0ZH0aH0bH0cH0dH0eH0fH0geB7h-Vh-Wj3qklUk",
   "lYkloncBoayob0ob4xI7 3+a5kF8C-Cd5ELYJO8STap6X 2989G3BTECp8ErlLDYMptSNrUl9b96h2qh4w BeVB+yOXhgI",
   "ShsXiqXpTk 3Mz40j59a59b59c59d59e59f59g59h59i59jQ+zYudcVcvtIywC+YL+YT 1gR2EC8oIHQh 0-g6zJUxUpBo",
   "tjS 04MC3TvIdvIevIfvIgvIhvIivIjvIkvIlvIm 7uEDY0ELKTGTgoqk0LvGR 5Zk8hcM8-QVLY3DtXP HrXJL1JPPauh",
   "auiaukauq FD0jRgjRhjRijRjjRkjRljRmjRnjRojRpjXomMYmYb 0u97KZ7Kh7Kt9awF0DYJVbfqbfwjDZjDhn0EpqDtm",
   "Wuujviv 3po4LqOT5d08 5gL9wxCinR1wSukVePmNPwxtx0E 7LBHD-HE3HE9HEFQs3U7uWYxXajXakXalXamXanXaoXap",
   "XaqXarXasZgIZqHn4As2d Ih7MIRjrquqE DhBFBxKuLLUbRXZTNUwUy 2052sP3We7XZADJzjq C77LjmLjnLjoLjpLjq",
   "LjrLjsLjtT44gNHmHCxZ2 F6MF6XF6bF6fIEhX+t-NP 3t8PH4ZkvZkwZkxZkyZkzZk+Zk-Zl0Zl1Zl2gxVs-J 0wD9grA",
   "obHVoaZbpm+yB3zeS-sk 1f91fD1fH8rvFhUgj0+aX 7W99qiAooM7wT5Eghsh3Xjyz 1lY4PGAPzEcdNtyNtzNt+Nt-Nu",
   "0Nu1Nu2Nu3Nu4Nu5P1pQnOXX3h89h8Qh8VrSurSwrSyrT0ujW R9IUzUZ7kqPD 12Q7MbAHpH87NupO3hU3qojazna AGz",
   "JlsP3XU1pVCaacek5bwcE C0-C10C11C12C13C14C15C16C17C18JLsOqKP3Eu12 7Hj9VnBUVaFmdPjnJDquVrjbrjj 5",
   "GB8QpCOscsdnQCo6wtehv3U+Q0 JLdb4MbSSkfMlZRunmv0OwUcxYs 0A20A30A40A50A60A70A80A90AA0ABCDeHjLHjP",
   "HjTHjZHjfVDcWB7iDIiPq 8s9M42Nbjeeefsi 0emUb6Y68pCV 28832ADggLuuV3pXwCgNhqJ5qJ6qJ7qJ8qJ9qJAqJBq",
   "JCqJDqJE 3oF7pt8aJ9XRCLpCLzCL-jKAlauzky 50vFfhQe-T-XT-YT-hT-jXjK+8F+8+ 0aU20R91aBXVTTWci6jXDpP",
   "NsRuukZ 2Jd62A8AWeS8eS9eSAeSBeSCeSDeSEgBGqXvrU5 Dt1Dt5DtFEDLPHrpwz 2CC9WwDFPI8YI8ZI8hI8jI8keT3",
   "eXOhKHo-Ot9pugC 2lb3Hm4Io7yp7yt7yxBINDnjE2SE2iJ-XO+PpxFx+5x+6x+7x+8x+9x+Ax+Bx+Cx+Dx+Ex+Fx+Gx+H",
   "x+Ix+Jx+Kx+Lx+Mx+Nx+Ox+Px+Qx+Rx+Sx+Tx+U BkdIxNI+mL2PLkqljIlrl sUq 6HwIA0IA1IA2Rd7hO3hjK EhJE+C",
   "URMZy7fkDpJurTVyggyghygiygjygkygl AuWEiSMR6Z+n L6-Ta2WAAd19d1Hd1TnCRwQq 8adKb8KbHKbMQDlbrWc59c",
   "5FhZsse1se5se9 37F6F0BYZOsmVzXq0jsNV 9bZIbQIbWUusfVJhbUpPfz2uz2yz30z36z3C 8fQEcDNjmOh6VGvk48kZ",
   "ika3 B21o6atGI 02qZa3e9ne9te9ue9ve9ze9+qLyuUFxNq+rR 62JH4vN8LN9cN9oSKETaxqI7vAW FS6KiLYikYiqYi",
   "zYj7f1niyQrDNuhzv5a+QZ 2eDDIXEN9Yi+hPfinPkhCwrO-4N 0Pf2uuGi1NiariatdK 4zLI2HOuVOuZOudR+gdE+dF2",
   "dF6jJZzV7 Mr+Ms5hpr 5KP6kA7IrEMXVYOYo9nKuqU3 25M3gl3gp3gr3gs3gt3gv3gw3gx3h03h23h43h53h79WU9aOC",
   "ScjOH 06eEFTVWVVuLXSc 834DNaHVFK0KL--QqgSG7XJRYyak8g 0p40p50p70p90pD25ZYkrwjr 4arM8KM8LM8MM8NM",
   "8OM8PM8QM8RM8SMDZXpu 1Ab1Af1Aj1Ap1AvKUjWUYdwSmLzmL+mL-mM0mM1ndd-7t-7u-7z-81-82-83-8A-8C-8D 1XI",
   "PS-Q2rrNbrNcrNdrNerNfrNgrNhyCr+IV ChEEMTEMVEMYEMZEMcEMdEMeEMfEMhEMiEMjEMkEMlEMrSm5ksuujyuk6y3f",
   " 7phAHMAHNAHOAHPAHQAHRAHSAHTAHUAHVSqzTpChrnhrrhrv+TS 4sJDzHI1INA2NJdV00kTsoRypH6pH7pHHpwL QHmU",
   "xNfWffWgfWhfWifWjfWklUIle8nwSxzX 0WCTa7VCRis-o5jtWKtnryCg+QP+QQ+QR+QS+QT+QU+QV+QW+QX+QY 84dC47",
   "MwnMwoNAYTkeYRtlL9tpAtpIztl AxBQGQWaQYjoc8FdPzdP+dQ3dQ8dQ9dQFdQIdQJu6UyWsyiQ NkeR-dTfjTfkTflTf",
   "mTfn 52VQ4kR-AW-+oZSoZToZUoZVoZWoZXoZYoZZoZaoZbx2yyib 74yCrkK8yL5Adrvkb9o0ooavyqa 89fRZ0RZ5RZC",
   "RZIRZLRZMTXMZibam-cT8gQdhnXpnQ+4i D0HHonHooHopHoqIodXoyf69lj2 DZjLRraRIciVciWciXtUR 8H2LInLzaN",
   "mUr5YzYLzYNzYOzYZzYazYb FiOJjxNHHinoxUl 07G1O35xr5xs5xtHrSInIMhBOyLZs5ZsJjKHx2- hI7jZEo0ksd- E",
   "MpJuvRpYn3HwWV 1IT3r63r83rB3rD3rI3rN3rO3rR3rSGe7KaJQ9pnzboWVw4vw4wwHT 4Y5N-8N-M D-qWFIdrqnWB 8",
   "NB8NM8NQ8NUERxmPH A2QA2UA2YA2eA2kY-EkDzrly JusXcTnaTomvqE0 G8kH2yNigc3nlxD 1vE2a+3E0BKAPsSY5Rp",
   "T8 ANsIq3Mp3bH+kp6lCNlCRlCVlCblChs2dtsM 70z9lQLzYYFuZmgbjHwPG EMERPTsk1thF 4qpDBIWGWWGabRVg7In",
   "MP BjeLlwMx8MxUMxelV1lV7v5g PsGjJ8unB 0zg5LjAKcCuBGU5QS3WBOgt4viXzZu 3M8GkzMhtMu7bVRdpYhJnmgxz",
   "YW 03y6-cIW6RELYJqeZKvGU Hz3IZ0IZ1IZ2IZ3IZ4IZ5IZ6IZ7IZ8IZ9IZAIZBIZCIZDIZEIZFIZGIZHIZIIZJIZKIZL",
   "IZMIZNIZOIZPJjkKXuMqiMqmMqqMqwMq+Mr2TlYioOm-7xAR AyOIIuNFXNFbNFhNFnV0BV0L 7jRTTRXdMapg 1tVCNXL",
   "gKQCe+wt JvqXB7 1UXJ9AQxqQxrQxsQxtS7f 2bpFjiJa+OyjdEvdUBe8se8ugub-Nn LL0T52j+ykiVsHTyOs Z0TdHZ",
   "kCQpAEvjY 0Ol1De1Di1Dm4hMF4uF4vF4wVQiXCCkhqmqSrOy 1wO1wb7NdCmsD5mV1gdVrn+Z 4+T4+hNSbSLGddugQc ",
   "9rx9r-9s3BGuTvZTvdTvhTvmTvnTvtYM5hlMq7JxRGyD+ 3Dy3DzaOPhers3e 8G9A3tABRBYuGdwLtbVDjpnFv7Wv7k 0",
   "yIUZZut5vAm 8JXh2qizSlaJnkctN0uP5 FnoOPwgCil-MpXj-Z5 AjbCt+WAEgq5jGnvLP IicUWmbI2fzX 4bk77+PbV",
   "WuRZjMf+diOPvsP UzafWvlvg DbZOnGPqXRA0XPqYjVfnrlsYlsZlsalsblsclsdlsevrE 1Z12aiFrrLNvLOSTOrYyua",
   "fiafsd6RsPktf7y+dy+p 4lSDKrEd+Ed-Ee0Ee1Ee2Ee3Ee4LFYZ7Et81 TfyX0-kbun77u3y f80vLlwKHw+ew+mw+rw+",
   "y a2ck7HkFcx94 B-S 2nJ4n4Hp7KjcM2vOb6W+z 9hwEsrUwtl7lp2sw3s-Zy Zdlmhsw3ww3yw3+w42zXe 08V55UEFU",
   "Q2USLbTlfUrgdN3dNKpX8wmg 3kj4rM5y28eRFP9FPAFPBFPCFPDFPEFPFFPGIgEcbRltqzql 0rvGcINTHjJdr2K TZfg",
   "Mggkh WgJkv+w55wVx 8Il8ImB0fEQGL3aQaASuKfCdfCkmNon+0uu2v80+3l 4IvFhGFxM FpEIEveQb 4dlC04Ey2Z2s",
   "kE8w9X CGvc6rvBYyHB 8VwAHVFZYIEjKkcWXdfAxv-K NSZPynSR3SZeWa4 8e9JLZMHhMiENC5YNBbQstx- 4T-QFuQG",
   "6WPxZv0Zv1Zv2Zv3Zv4Zv5Zv6Zv7Zv8Zv9ZvAZvBZvCZvDZvEZvFZvGZvHZvJZvKZvLZvMcgs BQ4e+a-jk 1dbE5qOL7 ",
   "5vRBKzE98MWEjSGuJw 3s5hG9y-W 0Bl7YvWMxd4hsoP 2EtADrKXiWPuXDznyUrW8 Z26aI-bmXqejy-V 2YCE+pH7IJF",
   "MT7bUqaX8GhxqlVnmA-wdpwdwyym X64iHesNw BrmK9Spc-pd9wxb+oK 5OAGkmbIld7Jj92lQAnTPojC 36q9o9Ch9WO",
   "qjMAjuin5ps4kytA-Yv AFzAG4C6zb44erTg2WotZzEt BiyHNRKCQdm2dm8dm9dmDjHXjcHr+- 2C971L7inWl5cBNcfo",
   "sjY PHLQdq+P8 BTnORQRBHUg0VKpeZWkyokyskywkz0kz6zHk NFTd4Qh1Oli8tix 3w77T2PGLUzLVHqVescISxb2 0p",
   "T3cxG-PPNvmL8qk0x2S 38u38w38x38z39239739839A39F8wxIp3 2OCCcGG2IHveRDTZvoaZT-vE CrxETTFiKGCLGCW",
   "GCaGCe K9ucgwdxVe1o AlnOh0R5gnT9r9U 4BMFMWIPXTQTUYfVycWM0fmPlX5 2cX2cd2ce2cf2cj2ck3KYMe9QEFcYG",
   "eZTpTRq-8 1gMAxbBeOx59 2tDKbZLh0uKFvr0 0dW3Vt4Q+KSWmrVwGr-az 2xWWlVg5lg5tguu-hZ FLcJlLLF2Un2fp",
   "NlECoJJ 2mk3yuABrQBNVVMZkiiiUrsZrsdsuNxMl DaKMneMwF 0aGBY3W6jfy5iu0 3634beJj5JjSMK+StcYcAoV0 7",
   "RaXxQgvmhnf 17R36m36q36u3gMPDzV1bey3 KguNw1U5QnUT 8ED9I79I8FpUNWIQJFSUwVPrZQp 7iREEhEKNEKREKVE",
   "KbEKhHfCO2FUvWUwniTviTx I-TI-UI-XI-cI-gJAiJAsOQWP5rrf6u23-S+ IEROwGg4KhOHiGjzRB+wH UBoWTUr41uF",
   "uv6pv6xv77x4y 4dG5Uc61LK3lWP8XxXXxbXxfXxlXxrd51iGel8Xo73oZxu5Z 1wP7Jl92o92s92wAQxCD+rTF 6NW6NZ",
   "6NgHK8Kd5hLI-oO 09G6G7Ekc 6hc6hk6hwAl1FVLK1pStrV2BV2Ek-8vmcxSkzaJ ER4HPyKFU 1gGJgTSczaHVpxRuZW",
   " 2MK2MS2Me2XYJb2OIanKEnKFnKGnKHnKInKKnKLwVqz9b 99FADdADhADlADrADxDLdf7GjQT XYlkfKlRiuc4z6Q 3ee",
   "JsbnmS-3j Dd2MKF 0jC3GnM-kb6gebhyRT 0SO4dK5a7FDEnFTwYE mLDshY DSjZtUutx 2ZRDQbI2jI2rK+h MxweKV",
   "gsUklisWMtzBw4F M6UQHvf25wE+ DjPMeYOLGTChcemceqceuce+cf4giI+S5-Pv 0n15sE5sI5sO5sUC1DHhrHyDJ82J",
   "WwJW+JX2JfSas8eBIeozxNRyTQ-A6 B4pB4+B4-M16Q3LUTM D9-IwaruxvYR 0JR4b8QnpQntQnxQo1Qo7TqpbfTiLf 0",
   "A11v3se7xmixmj-E2 ONoawKbuooEn 6zoIcFIcGIcHIcIIcJIcKIcLLA7yuL 1Ph780MQEPoWQJ5TYrqJ0 BAmYvSdSXf",
   "mQhR1pN6 Nv7OhwT7bT7nm9nu7VxnH 3KG926QFJluYpDCvvDyA3zO5 0Sx87XJG8MTsOgidMzi6Mi6ei6mi6ni6oi6snL",
   "P GoP 93sI5iPmocricrmcrqdAp 6WdLIff6ifhntCytD0tD4tDAtDGzat 0Ad5vGRZCfe-nPr LOqLi7LiFLiRLzIjqxw",
   "PL 4m8SQmVH9ZUq Q-kYtW+uC GkDGzQITGITIITKITOMk3g6wlYQlkcv4V 8cf9rAN-PkYNmM0ux0y9l+bk+-m BLcLCh",
   "TZAXx-+GN N1KVV2VV6VVAVVGVVMY3ylSZlSdlShlSnoNr 4tMwIWz+D DBVT4lT51U7MdzpoeHojx 1Pi2kpML3S7NVGB",
   "VMsYjcxM+ FjjJe5Je9JeDJeJJePXw6s73u3Pv0JzND 30Q52u54VAfFEYiGlcRAYo7Grqx 0yTE2rMqSOlsR9WV27tPut",
   "Q0vEoxp2 5EQBy9I39VwQXLwnf-sEi 2eRCNFJZaM4wdHOj9Mu+7zMw LPSQtYgJWim-vBm 5MxAzXGsCnTQ WyZxTFxwB",
   "xwFxwJxwPxwV TVEdOsgHwn0Kztm 6LKLBceurkLVtTTtrcvVK OepRvqRvrRvsRvtRvuRvvRvwcV1kOprCVxny-Mv E4N",
   "Njmv8r+fd EEDLROLRWLRbLRiQaOV7LhZliWsiW+iXAiXCiXEsHpxdf EYPNlwcDGjevjf7jfD 8zeOMJQ-WSLCZN8lnwp",
   "VyuPO--u HISWHsaCHaCLaCPaCVaCbiPgqLI 9aVDEmDF3mYW 2hSMi8TQpV69 4h67rR7zv7+47+87+CHhZJePJeXNj-R",
   "NVkNOlxp DEpHnhLHgOLKOLOOLSOLYOLePtfRyGge1oEn 6i4V3-bt6sqd+Xm HwANgxath HhHJSJLnyRkXZwTeps 8a5",
   "CUNCURCUVCUbCUhb5+b62b66b6Cb6IdrSkxqwly JmpJ-NNSdgzY 2+Fb-ct3D+QP EiyvQD 02aHCXJ78T7ZkqZ 4FM4F",
   "Q4FUV6bXiIYWt-En N2VOjldeMoZd 3UlBy3LWum1Iqmn 1qx9LorPFsk8 JFeSSgh1hwD+ 3RzFv1JRvZQ1eHCemOs3J ",
   "4YRAXFHPlXBzevWevaeveevk G8qGfpMvaQhG 5Uq7OhBlVcpGiOStI6-iP JOBLBac9xppR+vq PTaPTmWLisdbxEr 5G",
   "hboneSUfOMhh-l9VlqoxXk-zA IhtmtOmtWmti 0qM0qUeGIpsD 0v17liDlJES9ElVHBcHBqHBwNWoSFVTj+bp4inJley",
   " DfMKpYKpgOk3SKuW8LWAUWS9crVfY2hSa BTTFsZI1OWb4b0RidnjcDj+ekr4rSxxmC AbrCnlCntEzCEzGEzKEzQEzWG",
   "ymLQgNYfXS6XS7XS8XS9XSAXSBXSCXSDXSEnXT 5Kf5Kj5Kn5Kt5Kz7HwBFwSKLpb-szQ 4HbAV6CgGZpqxPWzuX JDGP9",
   "UQEZZhxeXDsiIsiOsiT e1Fjvnp6W 0rM1eEAK9VmSqoL+h7 3ZeH6EM7djxxk4ek4ik4mk4sk4yk4zqHO+Fb 8GA9U2DI",
   "XJdNJdRJdVJdaJdbJdhMe5Z26ZnzhwLkIZ 3oEMWRWwYdMp HJZKEKcPuss0 BTeC5wDIzEfTEfdF5ZILzJBHMPJqRz 06",
   "p1Renrc 2WE3g6RrBUVdmayxzA 9nzFl2L4SZ9KxBd 0Ez2JQAqaHsKczLh60raduxN EBqFdcK3lTbk 43MBiGHIpRSey",
   "-O+xI+xa+xi+xj+xo AnyKMsOUFPQ9mMlqO0 0Pg0ZuANJMpeYoMfjggovgo-vgevggvgmz-C 9b19b9Fg5FgCHT4PG2bm",
   "9rxN OloVj7ejCfh9tEM 6VaVkseXN L-MTsjY7VlXWyd4 1ALDIeKYnXJFXJLfj4lkEzZe FNHLZ3LZ7LZ8O7SSVa 9v8",
   "Sg6 9TlDaPH-uuI1zQV 8P+KtegEghYnhYrhYvhY-hZ5slbu7rvIl mzLoKeoym 0yQGp9VBW 68pSueaXqaXrc0Iflrfl",
   "sfltfluflvflwflxflyflzwJy 31Mwap ISlUvKWJvmSO A4zJU3R3zR41R45R4BR4HR4Ib4HqLXwHs 5JM9bKAEqAEsAE",
   "uAEyB4eFYGH1OH1gNqbNqmNqnOguTuuTuvTuwTuxTuyTuzTu+Tu-c5qfqI AJyPPhj0f NuLRYcRYgRYkRYqRYwUE0UE4U",
   "E8v5F 07u07v6rQ7dEBe9PIVboWdSUfOgkQvoRA E6eEZnwZm 3BKDmnFrMS6Yby9c7Fc7GmZntmgvbqxR7 1gM94lUByV",
   "BP KWxM4iYZyZoaaVyaktaonbgOdf9l7GuBI 4B7F2BOeXOuWRwkUw-bWCxXK 3+9HQZQGFX2Lqf1sj0toq-Ls-M6 CjUF",
   "B+Z6JkJGmFLyEd 4bhMi-Mm6UYjbRspoxqqNqqR 0W86FR6FV6Fb6FhCSyJU6U+CpSA 1VSYgXjSSt1ttzltzpt+3wewwe",
   "+wf8wfEwfI+Wx+Wy-by IEEL87M5GPC9qBa AsGGnGhPEwv4 5Xz6SYEHNSdmbyTkmpz6m YqqgxkhO2hpAjgCk0+tVhtV",
   "w x7r+-5 2FkButQV4kIRmJ5 BneLbiP7aXDIYXFemGr4CrJX 0IOAgnIfJIswVJzWG9XoUdf2usO DvBDvFDvJDvPOU3O",
   "UCQ6-S5yqDDsJbxVu MFoMhusqI Q-eWO2eWagFmvQx KPCKYTN4HN4IN4KN4MN4QlZlnif 0Zm54QL2aYF2dHBeZv 6yx",
   "CdGcZGdnTdnUdnVfVjnsc 6sZD01ETqM8agP5gZV 0c+2vE2vI2vM2vS2vY9gzEKFEKLFICFIOJC1Jua 8wzJUcKqmRQEw",
   "VK 4R45K-GZ2fO7s93+Da 1jNP2oTl1TouVJkaTnyei DH2Lerd0lefBqmPsY8-KU B7wFZHWc8iqUxo3 1LeDuIJsrgsR",
   "iISkJ9pF9uB9 4y-rQdzb9zbD KSBl+rwX5 1E33ieFaUFu+GFmpEi 5ws7mqRvDiEWtCu+Gw 89Cay4az4az8azCazIaz",
   "OdeUdeWdeYdeci4FlOKnuQyLwyod 2BiD5lNVgtrNz3H KCRiwBocwsRd CLYHvgZB3oVLy7j 93PE2FI7SP6FP6RYoAfp",
   "yydC H82LSBokPtsYtsc 9X99XE9XF9XLExKNU0VoqfQQhANmaCqVn 6heIsWPRGRAdkDLkDXuGWzXB 0TxDFODFUEifLt",
   "aUQKWdRj4txDa 03P0gAKO1Okgen1h-av6txjExjIxjSznj 5ea7kZ8zXJ-7S69kSG+QE 6uniNSphk-6f FMIWR5cJ2gA",
   "u 9SoFYLKGWLLXLLbLLfSig VSialYchGjQqq5ZtCPw+3 3+XCemJndvv8+a8+aE 5zW5zqSKPWIDXNZ+BS 5iS8PZ8wnH",
   "C7HtnKHgKHhR6HSfQb9kgLCoDO 2sxCGPJ0lSJBbQoeXxtQvuepyl0+Vp IEPPtBXlBfgJfgNfgRfgXkfjkfrkg1oeUw6Z",
   " 8k5O0wWgnwAGzddzdhzdlzdrzdx 8Ql968LnOW1Wjrvt56w0tw0uw0vw0ww0xw0yw0zw0+w0-w10w18w19w1Aw1Bw1Cw1",
   "D 6nnAKHfN3-r6-rA-rE-rK kFcqSy 1kD2ei5EAfIq 4sP7o99Z+B8-KmtLo8R7UdFmi3-k9wk9xk9yk9zk9+k9-kA0kA",
   "1kA2kA3kABkACkADkAEkAFkAGrncu2F 97ZH4RIuDadKfmBtjg 6JeFpdFplFpxHyPHydHyjQabYOfvSnx-a 0El5YkXMZ",
   "mipqSKx7b BWJGm8KN4RCDYIzYI+YI-YJ0YJ1YJ2YJ3YJ4YJ5YJ6YJEYJFYJGYJHYJIYJJzi6 3x1DxgDxkDxoDxuDx+Dx",
   "-UMfXKdleIz0g 1gV7vkMXvh3h BlyE-OXrWarudj5 6f6CERCgbMS0MS1MS2MS3MS4MS5MS6MS7MS8MS9MSHMSIMSJMSK",
   "MSLMSMT2aW8Qwd9 9LNH8PUtVWVum5MvWj AglCgVGydJFYN2VPQaPQePQiQk3aP3xXD Ll4NGTRs8YeKrj0+um Ab3Ab4",
   "Ab5Ab6Ab7Ab8Ab9AbAAbBAbCAbKAbLAbMAbNAbOAbPDQjPW8 AlMFsuMSFXdGjwPogXskNzYZzYazYbzYczYdzYezYfzYg",
   "zYh+po 4n6AaTDiuFAeFAmFAyHnpHnxX24hh+ic2zKRzKVzKZ NmCNmDNmENmFNmGNmHNmIX4Jq+urB1+k6+k7+k8+k9+k",
   "A+kB+kC+kD+kE+kF+kN+kO+kP+kQ+kR+kS 3LXK6AL+jcnE 72DK27YzybxegtQh5tnhbnhcnhdnhenhfnhgnhhnhinhjn",
   "hkoyrrtJ AfGFbrIyqLR2LRALRMnr1p3mu9cu9ku9w 482VPAVnqot9otAotBotCotDotEotFotGotHotIotQotRotSotT",
   "otUotVpbIv5O 2yMCMlCqfDVgQ2Njn6lzU 98bLHXbqebqfbqgbqhbqidNTeVCqv4r3Bspmx82 0fUDx2QTogYBgbaiIfm",
   "7KpdltRb 8--EumG5qYXcd0Cd0Dd0Ed0Fd0Gd0Hd0Id0Jd0Kd0Ld0Td0Ud0Vd0Wd0Xd0YxIN CvZaZwd2AwTgwThwTiwTj",
   "wTkwTlwTmwTnwTowTpzEW IcuJ9KRExXoFZZdf+mf+uoJ9zkK 7ULPbgWRi 0JW1A01aU5tT5txR9FR9GR9HR9IR9JR9KR",
   "9LR9MR9NR9OR9WR9XR9YR9ZR9aR9b-my-n0-n4-nA-nE-nG-nH I1qKUnQ8kcOQkcjkckkclkcmkcnvTJwaj 2k+8lAFN+",
   "Fj0HeIVkubUwe3I DudDulKalQO5pT8 CE4FIIFIJFIKFILFIMFINFIOFIPFIQFIRFIZFIaFIbFIcFIdFIeaWtsep 5qA9",
   "WWCLNCQWLf5RcxSVQSmAaBtmy7+o6 3X1JqkMGxn7i 1JvA4CHZxlAlydu 8Aq9BfCjEEoZKyTgSusyP IFALH7hqmtg4y",
   "hv PN4YkOoAX+5M 3-zBxsGyJpbJs+9vjH 06J1tp25dBNTIQNWaUjqU B1sB1tB1uB1vB1wLlchp7qdLu58wYnwYywZ0w",
   "Z4 9bom-us97zT7 76hKPtKVbUJjXfIXtIqPZ B0fECNUniZALzkD H5CMRGO4cTaVVyNemGmJ8-kr 5XwEmTGU7RdSUSe",
   "b8xncG 7vGarJfPGvcawanwxN XAGe5DhpOi8onTOnzd 7YbK5DNP6cP4hLQi4nkJDo5zsZY+rE 2G5InjPI6UugUuhV9S",
   "V9kZ1ubGQm2Mw0O 36tEAcFUSI4CUUVaBC 2He87cClJcB+gGW 4GkH2MLAJQcbWPa 6+9DR1J1kJIhLF3MpCt2Pyz- 5R",
   "58uZF8LKeWSBXSyXWRXhx- D7+JE4SXfqHiyNJ 1r3A8qvs5 1a495UJmvKAN Hk2TccV2XXfgpgerhAtWl CoQZJkZJyZ",
   "K3ZK5aS9eNRjbomWM M5+W9whjrmS2rj7 728AKiHLBQ6UaA4eGDiqpmQgmQhmQimQjmQkmQlmQmmQnmQomQpmQxmQymQz",
   "mQ+mQ-mR0p2Sx5B Oq9YzUfXwgLQhSpiLcnZBr8Hw+p 8uJIdYLAHNSlNe4afPjTVpPEpPIpPMtSo BR9cTvff1fsAtjMy",
   "JmytE+42 VwwaZjaZkaZlaZmaZnaZoaZpaZqaZraZsaZ+aZ-aa0aa1aa2aa3fKTfKXfKbfKnilurMq 3PEBQTEMDG8LHqg",
   "X65owSvRm-oh BboJPIWyRXcYZv1aF4f9W 2gXNJ5NJ9NJDRgiSKgT-DsHtsW1 1xz1x-1y12KlCI7OimOinOioOipOiqO",
   "irOisOitOiuOivOj1Oj2Oj3Oj4Oj5Oj6TmGdQXvvi 6W9hXgsYN-kr 2wL9CiCxVil7rKOzVE Ih6KoqNEQ-Y3 CrpCrqC",
   "rrCrsCrtCruCrvCrwCrxCryCs4Cs5Cs6Cs7Cs8Cs9Xe2lkul-xqUs 8t3FDvZ0lptwpu8puFpuH 14Y9Uc9ueMr+VhWipa",
   "m5+ 6HJ6TU7dj8SyV4ffuehg1zQY 0+s0+t0+u0+v0+w0+x0+y0+z0++0+-0-70-80-90-A0-B0-C5zmp8Xrva CCjQCpY",
   "etdWfe0xmCy+1h NuwnxipK1unr 8HcDGZU88WzQozfozlr7vr7wr7xr7yr7zr7+r7-r80r81r82r8Ar8Br8Cr8Dr8Er8F",
   " 4Tm5bSA-iKJZnezrVFsmg JJ7Jp7KBIQVgS9+V0pfMehnfoAk 1NvGDjb5Nb5Ob5Pb5Qb5RbJRkZPx-x AR5HgTNvFWkI",
   "spOspPspQspRspSspTspUspVspW J4Gr7oys8-7u 2pz7wmGJ1H11H12H13H14I2-SHwTCsTVhUYaXerYKzcJnhlaiFViF",
   "WiFYiFaiFe Ak6ENfH+MVMbYiSasN 6Am8G18K3PgcfREgyQgyRgySgyTgyUgyVgyWgyXgyYgyZqaNqaRqaVvUzv-Rxkty",
   "bzyyhyyiyyjyykyylyymyynyyo CWrCWzfK7snPw4zxgB 4S64SK4SR4STGQsQSqSY5X-uaTbaTc 7C1E7UG9MG9NG9PG9",
   "RG9VMrVZOLrlqvGs 5TLB3lDzBFgQRmESwNV5TV5UV5VV5WV5XV5YV5ZV5aV5bV5c+pw MGfdhooz+rQE 22+4fR67s8kd",
   "DmTZ00eGIzka 4UHA+sCBKK8SVWZhjem7Iwlo F+zHgPJEWJEXJEYJEZJEaJEbJEcJEdJEeJEfQTRQqbQr8hfbhfj 2GQ8",
   "yOCPyJzJKfpVJ5ikAmQ1qIquQo 2kwAKHC9yIUCImRVWbePwrBbrN9-7b Mxl 7NZ7Na7Nb7Nc7NdA6NO9OTCnYNUey6x9",
   "2zJ6 D35D36D37D38D39GmQPxMPxSWtDlnpy55ypiypkypmypq 2kaTq9aW0fFRmvxp-qtAu 8J1CWTKtmd+Zk+j CIUQw",
   "UyFP 1C91CA1CB1CC69eDqvG2eL0GL0IL0WL0dL0fgBch10vnT An5EsqSJIaZiiiy AfBD7-hQli8Rwl0 4RO9ggK9TML",
   "LmOSrLDrLErLF 7VL99JIMNUuQVA3bh5dCl 5W+5os7p9CRCRYkUEjWdmdEFj-toVpq+dsUu 6PIEKnUkc 2Qh51Q8NX8T",
   "1JeYfUHfUIvi8xRpy+WzIOzIczIjzIl 1Q+FQmITiJJ6MV5S63yPc 14A2tQ3Ic4fnYIYd+gnn4 4f98MjQejWSppqA Td",
   "Ld4InRPo+KqjQwn- 45gAs3HULHUQHURHUaHUiNP4kNfu2kv8Q 3UY7j7IvrNs0PxSfZbgLy AlezPd Jh1KwyRbXclhjb",
   "lmWCuR5wloxbC 31DKD7czIghd 0g16zf72u7ZQEC2hFltQO-d8-d9 Wx9lD+mEin0Jutr 5HLCIQPjVRLAre+ 5dMApJD",
   "oEY5LcfcewdxBx 12e6I1IGgIGiImfgMhiHE+NN+NO Bc3Bzod83-FQ DsYIBgRFqiZ+xRD N-4 NI0RuU fEyqU1 1-bI",
   "BuIIrO0LRM1dLDlo7mp- 5HY5uII5rLc2iRp 6bmDfygW-gX7ksIuMywaD EP0M1eTNnXaEY1-f9is8gs8us8-s91v3P+f",
   "Q 15nBK6RlyeW2kbokbskbw JT0MJ-Nd4ODAXZecsLgb-kIGzPm ISgK3+NnDuCcuN1 RY2XEjgHjgHxgI2gI4ycC 1NX6",
   "A9GFHIM-Vlhj9Bll3 9REAhFBm7M+CmUA eXhpI7 5HnUQkWBef-Ko0r+SC+SG 6KwG0+GI1MgnMq4Qu2Rca 2IDGXcGXd",
   "GXeGXfGXgGXhGXiVyfjvcudI+3v bOelJ2lJ3lJ4lJ5lJ6lJ7lJ8vp5vp8vqA HbpIZnU5dmB2myOnOpnPMuE8-36 06nE",
   "BNOa2UEKmFRoqOoqSoqWq2Dwx- Av-Aw3Aw7uyp 5GcN+2aXLbQ8jxz 6iq9mSHTffyB DA5HDLHy6eBGk9bl52lKQpsfw",
   "UV+tk 5W765LKw5Vn2VnAVnMaeAipxj-6 4J9AUdFoLFoMFoOFoPFoRFoSIcIn0fwrt 5Zq6+dVAEm4Dm4Em4Fm4Gm4Hm4",
   "Im4Jm4Km4LrRv 72OFxHNJfRFRRV3SKJTCCn5nrIuupdwQgwQkwjX-4Z 6WK7JnT39detkj5-YP 3qYAXbMEBMEHZ3Hadp",
   "fYz+SX I7bSXhaDFaDGaDHaDIaDJaDKaDLaDMaDNaDOk43+LL 0Kj2TLGTMLobNMyPE3d8edLGeI6 7wdTL+emUpLVuMS+",
   "dq ciO DLZOMIOMJOMKOMLOMMOMNWUlaLiaZiyks 4cPBiiE6vU1ljhtllRzqX 9QwAq4HBXiCJ+W9 1mV9rxDqMESdcWF",
   "cZQcZScZXcZad4Cq0d 2Bm9LyFkAFkEFkIQcOYttsQV 0jAGwNrlwzhB 0Lf9anCjRSv4b7Yb7wiGynUdtVl 5p8J0JWc5",
   "XxmeusrrWxG- 4x77HdAYtCQhHVWIvshpdiuVn5OuHi 6FFMOuMXpWlubuWbuXbuYbuZ DyuEnoG6bGLfM+-Pg3Pg4Pg5P",
   "g6Pg7Pg8Pg9PgAPgBPgCREdg2bg2cg2dg2eg2fg2gg2hg2igjQsGh 66j7oLE8bIpjYhrjcNmcVr8d 2kh6OrEkMJXhpl0",
   " TtLcHNktxtqU Dp6Dp7Dp8Dp9DpADpBDpCDpDDpEDpFQxI Fq5FtSQGShFjpSotnQ LAbp1X 2ZI4hWROGWhRt65-sI 1",
   "y91yA1yB1yC1yD1yE1yF1yG1yH1yIKPa 4+vI51YRE 4Ab9JeRiualC 0vY3gy5G0ZCKgl1s5Cs5Ds5Es5Fs5Gs5Hs5Is5",
   "Js5Ks5L 3Dc6TkGa-Q9gg5Zi-d 00m1--x7gzSh N06Nr9+sB-e+ 9olPn6SSeeK3gEFgEGgEHgEIgEJgEKgELgEMgENgE",
   "OhZ3wcn S9p 8aS8aaDRAJIxNNkuVK HF6Lf5UY4j7MjSi UNIUNJUNKUNLUNMUNNUNOUNPUNQUNRaGVhsGklqzWb 3KVc",
   "vX-eE 2iqACXBFbafvbknl1fohZoz5 5O9BfTHJ9 B2MC1hIWLIWMIWNIWOIWPIWQIWRIWSIWTIWUQ6Li1n+AW XmYdh6g",
   "QmhOEjrjl6Snok 6vmIpYPFZWC4WpDbJGfJJkPSszKt85 BepGRIISRJxLRnwe16feCvBPvBTvBX 6G26fO6fP6fQ6fR6f",
   "S6fT6fU6fV6fW6fXBOKIlug9mj0-k6LptvwQe 5QvE6zGayUfZXSmZ+m 7xBKjLREqXLbcSjtq2 26G6hZ8s7woRwoSwoT",
   "woUwoVwoWwoXwoYwoZwoa 77WLCjt+Dxo2 0-k6wmBY0 1Az29wEWAxPP QQFkxUkxVkxWkxXkxYkxZkxakxbkxckxd-Ua",
   " 9HPQRmbmZmqs ASqGaDTZkpzksIztc+ 1cQ7PWacD 3nAF0uQP9aUZfFEoEi 4kt-Vb-+Z 1Qk1Qm1Qo1Qs82eAeDYbTd",
   "X9mR2vyB-O+ 3RsR2fT7aWuZ 9lb9ljWdEWdFWdGWdHWdIWdJWdKWdLWdMWdNWdOWdPWdQWdRWdSWdTWdUWdVWdWWdXWdY",
   "WdZWdaWdbWdcWddtAV AKeEumX98Z6eZ6fZ6gZ6hZ6iZ6jZ6kZ6lZ6mZ6nZ6vZ6wZ6xZ6yZ6zZ6+h3ZvX+veqy00ysm+JM",
   " 2WrK2AM90TWBWtscvZfJbxcK 0sK3gELNrLjFW2Oy7Vy7W 9iYExEJEQg3k NFhNFiNFjNFkNFlNFmNFnNFoNFpNFqNFy",
   "NFzNF+NF-NG0NG1ZpDkBLvUz 1lxL7Ge7euO- 6HpcNMcNQcNUg6stsA-6Q-6a RY6fr1zCD 1nLBOkBOlBOmBOnBOoBOp",
   "BOqBOrBOsBOtBO-BP0BP1BP2BP3BP4NQrWmcb9MdxSdxfkwo 4YM5LiVgYmoCsjusjvsjwsjxsjysjzsj+sj-sk0sk1sk2",
   "sk3sk4sk5sk6sk7sk8sk9skAskBskCskDskEskFskGskHuso FLnI-GMO-RLrcAVcAZcAjcApcAtpW8pW9pWA+55 TSxgS",
   "Rr4Rwe--Xn-Xo-Xp-Xq-Xr-Xs-Xt-Xu-Xv-Xw-Y2-Y3-Y4-Y5-Y6-Y7 CzkE+DH+wH++H-2SjLbBlojnojrojvrND+Vf J",
   "G8KirocI 6bvKGGQJcQJnQJrQJvS4wtZFvUU AlVSmdpgqpgrpgspgtpgupgvpgwpgxpgypgzph5ph6ph7ph8ph9phA 4u",
   "eACqHeyKAOL6MOvzQybWRlY3wd4PhtdoNPyJG 1tz7P7TifcAslWloo1sbm 0Bk5oXfiIgzH 6qlMqVWYCW+Vdptdpudpv",
   "dpwdpxdpydpzdp+dp-dq0dq8dq9dqAdqBdqCdqDfxDhNOjB6pDDuS5wrl VclWNRYTcaFgaFhaFiaFjaFkaFlaFmaFnaFo",
   "aFpe5ExYA 1OTBkeTWRcerqPOqPPqPQqPRqPSqPTqPUqPVqPWqPXqPYqPZqPaqPbqPcqPdqPeqPfqPgqPhqPiqPjqPkqPl",
   "qPmqPnqkpsxYsxcsxg-Qk-Qs-R2 Cw9DKILC6L-1mORoYYtPpusw BpyJOmP-QRywRyxRyyRyzRy+Ry-Rz0Rz1Rz2Rz3Rz",
   "BRzCRzDRzERzFRzGmvLzOS 7wBCrOOOjOOkOOlOOmOOnOOoOOpOOqOOrOOsUMklhDzOD 7vQFzsNw-PtMdE6jMim-C 8Jb",
   "H2gKhUN9SOusmVr 92J99wG5zG5+G5-G60G61G62G63G64G65G66G6EG6FG6GG6HG6IG6JJx7 5gsAvJBExCXmCXnCXoCX",
   "pCXqCXrCXsCXtCXuCXvGlZZqanfTt7G+c8 4ppBohBolBopBovBo-MHvWj1ch5nLf 3h05B5XgeesFmhhtJCwbc+AU-RA ",
   "3i+4F04F14F24F34F44F54F64F74F84F94FH4FI4FJ4FK4FL4FM7Mh8+8HfIHfMHfQHfWHfcOt-RXVW1NZ4Ucsyi83oh4p",
   "BupBypC2pC8vD3++x 0gp0gq0gr0gs0gt0gu0gv0gw0gx0gyC7cNzJSEobKwmiyx96 1UFI9xUhBWyWaqIfbhgiNodl Di",
   "UEzhYi3q8nuO3uO4uO5uO6uO7uO8uO9uOAuOBuOCuOKuOLuOMuONuOOuOP+Y0 7qbH4bLAMPpbZ2sqpsqptqpuqpvqpwqp",
   "xqpyqpzqp+qp- 2nKC6MCymMqPjU2vmj F++JA3JA7JABTuYWEaWEeWEiWEo 0oIUKjlBktUyxlq+mw 2ci8rJ93qHHeNc",
   "GNhLTXkTXuYImZ1Keyveyweyxeyyeyzey+ey-ez0ez1ez2 0FP38UFjDOi+QJdVaBhk4lu1w66 1BoZBTof-og3og9ogF ",
   "Ix-Rr7ZntyWR FIfT5yT5zT5+T5-T60T61T62T63T64T65XSSZrYaT4hgU 2dQ7Ru94xCy-ESaOJzjjy 7p8JziO2lexoi",
   "IGiIKiIOiIUiIamG8owRowZowl-qP EkeIfKKBrcylej3i5lk7JsEkvyd 1a51-09nSHE-HF0HF1HF2HF3HF4HF5HF6HF7",
   "HF8eXVrvA KpNPBQTPb 1i6C5bJDBZnxd3U Kh0Kh4Kh8KhEKhKXnCbGHgNnqlmtA7 5O25O35O45O55O65O75O85O95OA",
   "5OBIVMIVNIVOIVPIVQIVRIVSIVTIVUIVVKWZSgYTzJopP VY2VY3VY4WZEeuG-EC-ht OtgRCXW0ZYcbaiM+uK 3qjE0xJ",
   "dQXarhJWktEvX5vX6vX7vX8vX9vXAvXBvXCvXDvXE-Do-q7 6eP6eQ6eR6eS6eT6eU6eV6eW6eX6eYAu6GpbHHWLHAQdJc",
   "ySgtpuCP DIGIZnJh6Jh7JzSK8cK8eKu8k8pkXHzbj 6AOFLa 7JuIftIo1K+JnkpvwXwnSwnTwnUwnVwnWwnXwnYwnZwn",
   "awnb 4yeR5VTUf 0M00M40M87qAC0KC0LC0NC0PC0TCQoQ0pSdipUXpUb GAaMx9NB5WrOdJz 1hM1hQ1hU1ha1hg1w67y",
   "TFqPMZViEeiEiiEoiEukwVkwWkwXkwYkwZkwakwbkwckwdkwev5h LYvQLXVCWXbuewHzHd 6Z8EBpR3zlM- 6BtGnuJ-I",
   "PWRPWSPWTPWUPWVPWWPWXPWYPWZPWaPWiPWjPWkPWlPWmPWnYnwhTflG+vVswy1xly 3MoZ3YZ3ZZ3aZ3bZ3cZ3dZ3eZ3f",
   "Z3gZ3hlRz 83P gOchmjs3e D2DDfUDfVDfWDfXDfYDfZDfaDfbDfcDfdDflDfmDfnDfoDfpDfqFlXGIhhqVl50v2CxWG ",
   "0dNJFvNCbNCcNCdNCeNCfNCgNChSMUXNnbGXfMQh5ZmRFmfEqQe 4mi99wDQ9tZuycdz06 CzZEMFL6hVvmx+3zXL 1oX1",
   "oY1oZ1oa1ob1oc1od1oe1of1og1oo1op1oq1or1os1otI1CJbqZE3fFTgXe 6yhLWqOcxxFr 5BVPPcSaXSaZSabSafUc8",
   "hAI DYWFiIK2xM3cMt-Mu0Mu1Mu2Mu3Mu4Mu5Mu6Mu7Mu8Mu9MuAMuBMuCMuDMuEMuFMuGMuHMuIMuJMuKMuLMuMMuNMuO",
   "QeBQeERjIcAcrxarxbrxcrxdrxerxfrxgrxhrxirxjrxrrxsrxtrxurxvrxw CTabCbeTHhMp 9ftZk2cVneAvuAyxHe T",
   "XGUl-pElrFfwImwJ8 8BsLPTg4dg4eg4fg4gg4hg4ig4jg4kg4lg4mg4ug4vg4wg4xg4yg4zg+yg-EkXUr4O 87DF00tC3",
   "vJOzow-Fi Xj5nvnol+vCHvCIvCKvCMvCQ y1zyKv 4Gv4mO4mT4mZ4mb4mc4md4ml7SB8MjUDgUDhUDiUDjUDkUDlUDmU",
   "DnUDoUDpUDxUDyUDzUD+UD-UE0etlgGOh9DxkP-fC 4cXFQxKUzNvvieqnMtnxz-Ja C0APKtWOiXSxcv1gyehm-ubFxci",
   " 4e5AfHM7-NGyjSpjSxmTy 16t57gFMpFMtFMxbfekgvpoJtQT 3njDvIOlqYMtwZszFY 09EJT0R24YXggHZrT5rdJwgk",
   "+Xj-Tr 5VhKVMKVUKVgQ4TZ6aac-fPWjfRl6inIyuJFuJJv8K CPLiUGkNGvkwxVx 2lr3jvHV8NPYQE3fixiY8iY9iYAi",
   "YBqXlsZ5+jc JjGexE 8ePA1RBqnDS4Om2eWsy4h ANQCtONB9NBDS4LiLBlzL EN6GiXK4eKDBKDFNhtnmwy1O 3KA8RX",
   "9mU9mW9mY9mcAEqIF+PA4VHrWWjY6PY6QynS Pv3T+FT+GjKl+Ko 3SKJiPKPnL+JeU9xmw 2W92YWBi1EKlIJwK3dVr3Y",
   "C-gPStTD 1Kl1KrDzhDziMFMXPOjxujx+mwVpCVvjy 128CWiUnnVw-Vx7 4MRGVlKj3LPLNQaUTesfC 98ATp7TpFhcGk",
   "1l 0EF31O6AF8RK8SHAORCZSLzbb3cdI5dI9dIDdIJgG5gGD 3fL4eE5YQD9jH3DLTOWqsbVhe2hnwJzRJ+-E 2q+Inagg",
   "4goFqzXzlV 3gpHLIkAHnJtr4F+XX+XZ DfTRRGU26ZQPfKEqKvrLHrubtoOv6a 9AvKu2 2mO4vE4vI4vM4vS4vYu-Qu-",
   "czde UvFhNrlruls1ogZ DLeFanTAjTTHYdJmvk EXBiNjsko 09vGN6SabWRyfMcp8JwEO 81PMScMUCcpZcpaecptoSy",
   "eE 1Uh5Cu5Cv6hMD2GHcKKZ0NUyfVBkS3mV0mVBmVFmVJqkO 5Pe7iuIzXb6AfrhtQIzpg 49uHPaTdxVlMgZhn98yASyf",
   "i+4q AryJgpQyik9frdsvLywF5za0zac 5Sb5lhR8cW-aatL VNjgAymfXsBb 7xkQVMa+FmJVpCMv5R+9b 2Ib7pOA3kF",
   "5eF5fF5iF5lMkCVRXfmnuQdvuQ AM4LjQMaVsy-tQj QFpRZZUM0y4n+CM GkUaSYpLh-05 0QD81RMJzTvqgOzgyXisb ",
   "79vOaSdvzg8X-z+ 7dMBdsd4yyXjz7hzjZ C39QpgW3SoJg FwsI2tKHeKHoRZ5SlZxIu-0F IrMN3DahfkQGkypyhYz6p",
   " 1i8IvbKQsWPgXR+qsz 8KbCkeGG2YEff9ehGmlZVvEh 6Bw8QT8QX8Qb8QhMJZZCYpJjt4Dzoa 5IZEPwFrvVIGnuZxsB",
   " bIhj9W 6MvDBjo6-wKz fLTfLXfLb 9aWCxcZk6mV-nWOt2Q 4uN4ulIQkVmVkUXr0kyr3 O2oP2ZcG9cGAkUE 2DS4gl",
   "NjjQqLRRGY4ycagk+1+rX K+5kYdvsf 4oODQWYkVdW4f9nhrzhs5jGYyfy 2w64sE7nWNLcYVWYd3ZPT 2GzDDqNM8i-L",
   "zeF ZM8duSeNco7XoSgqZjten Ex2KIYLkcOMCPV-TIqZJYbqgikyvGVvGWzuK JDdRykRytVBkY6pi2g 0up2+96Iw9xs",
   "+41 2Sl2Sp2St2Sz2T3H7Rk2- 00ECg7TxmlTGmd9ni6sEa 4J3AuQAv9E2YjzWq94 8mQhFp 8n1nvq 5awHXONoiTE3Y",
   "d4aCxtNOxsu-2C NzveHzeUxmLprlV MQHjB4t7G aTw Sl4VTnY82p3mpBFrPorPsrPwrQ0x-G AWySR4YBkyjO+LM-5Y",
   " 2vbBYyBZ4BZGJ4cQWsbKrt7C KN-tNfwuA 4YZY0Bd9hdKcdrPm-MqicvJC AuIGa7JmNv2i+60 Aj-J0x BEKE-bNekY",
   "03fkW 5RXE1IRTL 6Fv9d2EbfMZ9XHobfUqzY 1O5C+ISK3ZbnbRQc0tuPW 0bsQktcEwfugo6nq5JvaaxI6+QQ EwxFUr",
   "FUvFUzFV3FV9HxdMkHQgOsSzusKw0X 7a8adFgD2iTgwRV 0rB0rP0rW0rYtcLzU5 5VJHqXeB9jjd 32T3XlBADGckgDA",
   "-9Y 3NbS7CZfUb0xfKalS4lS8lSClSIlSOnIQuHj-SH YnAiqJnr++MC 6alBSQDX4RUmbuztuUu9e 5c76Uq7dzE50PGF",
   "yY9 32bTZNUGfcgQ 6yNVMGW8ykOy AufKSlL-jntWtvTucyw0+w12w18w1E+2E Jc4Oi-SQ+V9rZZ9bLobbwqbm IB+Kj",
   "HMsaMseMsiMsoMsuUINYf0 Gq-ObLX2saMIiW2jMLtnQzsL 2iz2tI2tM2tQ2tW2tc2td5vOA8mFMcI8TNniQnodLGhHgr",
   "QEs8fsstwsuwsv 2DZ6gORN5SxRTVNcQ8yop P8TPFhgVJn79oUa IfeQk4a0LaUhb13siB+Hp BOvGtFNKAbILhfOzZe ",
   "1VKAR2KZdN4qUIcihSmx6 62MFzKIH-UtFUtPeZPkWl 0M19QaIz0I+wWa7YbNYk+hc5 5jIBcsPe+oQe CVcCVdCVeCVf",
   "CVgCVhCViCVjCVkIMJODIo8ko8so8y 0sb2IHUDdUDeUDfUDgUDhUDiUDjUDkUDlewx+FI 9qpH0LcZvvsLx+9yUAz3g-l",
   "v-lz 2w05U5HhNNXDXwMftughomQboKYv2d+N5 9maKOFeN1oF+ BYcCL7CLDRn9nQ3px4px8pxC 3EKQiyg45j-Opuwpu",
   "ypuzpu+pv1pv2qmo CK2FRhFT+FUMIH8KysP+hjKFjkPmX4 1L-WqXj0Ws3k-vK 4KyByAE3TEgAMrxva8+S1 19L36dEr",
   "-ajCdrNe1ze1+e21e22e23e24e25e26lF7rENy1o 15qTbD 05X0JfHugKW+PqMYT6j57nMXq5y 1YFI9mIJNKTOLkZQMa",
   "b+ocNRcQZwpG 2-2BH7SB0SB1SB2SB4SB7SB8SB9accgMHxhR 2GnMDQboOjA1oMq 3s749VEMYTEmjy7x7oxQy 0nhEqn",
   "NN4YYvewelsdlshlsllsrlsxlsyt85zKj AQXGK3GK4GK5GK6GK7GK8GKCjTtjTzsPc ERkIMCIMDIMEIMFIMGIMHIMIIM",
   "JIMKIMLS2RWhpbXq 0qJTINTVGgajnj2-X6 1jM1jN1jO1jP1jQ1jRTx3U+jV62Z69oWZ+Za-be 3Bp4T6XPj 6VF6VG6V",
   "H6VI6VJ6VK6VL6VM6VN6VODNwEfHRvcVtxlIT C3vFAIGygMi0NhMb8p 2h5HTIMkoQirRg0VQBa1igm- AUbS3tWPlweJ",
   "weKweOwePweQweR 7Bs7Bt7Bu7Q9e5mogHzfN--P--T--X--d 5aTBgRII2Vm9XmBpbq AcRcrgqZM 21sHoIKYoPpjT5D",
   " 8ImAZLHFqVI6efIhiqnlInyY Dqbg0moQWyRs+bX-xz 7iH9V2Q+jSHGTcYTccTcgb3q 71o8hrFkkcAWcGZfbLmTwxUv",
   " 6MlFXcRdRZtkeQisEOtU7 LpNWShdRWxrK+am 0kS2XFEY2F7mUA+mcUsEKt5w 08QCJwN3RlTTlTblTnsWb JsHJsISB",
   "esUwuLHv0h LVrl+N 2on3GpGZyUwT 3cCBwFBzCKJqTldUOCUs5Us6Us7Us8Us9UsAUsBUsCUsDUsEUsMUsNUsOUsPUsQ",
   "UsRhE9m+ftXm-nJ CdUWzNe+Fe+Je+Pe+Vk9Jmu+sxMv1U 4VK8ODFojWblbomtPs 79096Jb6+jfZka0r9btHg 0XaI-8",
   "I-9I-AI-BI-CI-DI-EI-FI-GI-HI-PI-QI-RI-SI-TI-UNlZTeoWvMhoUhoVhoWhoXhoYhoZhoahobhochodhoehofhogh",
   "ohhoihojhokholhomhonhoohophoqhorhoshottJC AnSWR4Z2r 3CR3CWG3xMz-OGTes1 7d6PG1 5mb78B78C78D78E7",
   "8F78G78H78I78J78K78S78T78U78V78W78XD8aPMtPYQPq5bjxjp5yUK 1kTPixgHCkQIlxPmBM CPWOOQVhybWQpMW KW",
   "IQIwqEfxHExHFxHGxHHxHIxHJxHKxHLxHMxHNxHVxHWxHXxHYxHZxHayiF 01j91bCl6h2gsrU+6M-Vf 0-v73iE9+bKqk",
   "8trRWuIG+b6 2N17M4QzpXPvtFVydA 1Y78wZFaoMCPkz0lQHlQIlQJlQKlQLlQMlQNlQOlQPlQQlQYlQZlQalQblQclQd",
   " ZM4r7P NZMOyLd9Tf82hjqqhc 4KL7+2P33akxfSsrhA FbhFk7STHZZKZZLZZMZZNZZOZZPZZQZZRZZSZZTZZbZZcZZd",
   "ZZeZZfZZgjB0oOC ZzPeJ4inA UDHUDIUDKUDLeqffBZvQDy75-dD 4F0Cp-HoLayNd3kd6lfqDorForT FrgI6cNiNNiO",
   "NiPNiQNiRNiSNiTNiUNiVNiWNieNifNigNihNiiNijSSoXz7kFBwY2 25f73nEMTTkwq88 4gQ8qTERseygmG8o4s 1CK1",
   "CW93CTzGryX 1wkBrQBrRBrSBrTBrUBrVBrWBrXBrYBrZBrhBriBrjBrkBrlBrmGbzTvPfhjgu8 16wMvgQVGb5ZySX 0H",
   "VIZLyOx 3199jVI6JNUSNUTNUUNUVNUWNUXNUYNUZXL-eRAlUjqGs-+T-+U-+V-+W-+X-+Y-+Z-+a-+b-+c-+k-+l-+m-+",
   "n-+o-+p 3+D4kuVyvZkIhv5 A44HHvWtJfhgqn5 IifPbgQV6YHkj-otgktxc ay7brhjBvjC1q7Wq7Xq7Yq7Zq7aq7bq7",
   "cq7dq7eq7fq7nq7oq7pq7qq7rq7sutxwY9zlC+pl H7GSFGUNrr4Ntxkue- c-4mYMwsZ+zA 9VCGpyHRQIC0c+GwOP-Ia",
   " 62U9ZWBVTKInKJ4PuVj0+p6st5R 5Y55YDEMgZz5kHoo2e B9IR87WzCosY PXrShoh1y 8RrXA1aLMhEUvh8vhG ECiJ",
   "6iMpLTaQeBtxVb To+XETp4XyvB YgVhLoin3n37xUh 1bH7DW9dALJ4VNXYkKYkOYkSYkYYkeYkfZ9Fa7lklZ-zM 5EPD",
   "alRCwh2vrmsrmyvTy 5Wg 8E+Ab0Ab4Ab8AbEGzPJLjMpYf7soB4 5n29SLq15v1+ 1Es4CgA31EHXQ6XQIeUVu 8xzINk",
   "NhmbNKgYYgYcgYggYmgYsnGDpmerw6tBP 0jAAybR0xTARdeCp+DzbA+Io+Ip+Iq+Ir+Is+Iu+Iw+Ix 4WU7fd8sjdOpeC",
   "9eCDeCHfFVjy5uNpuPSwIX EfDToIXscZ48l-fm25 fL3pXzubG+KG 10L1wiAmWIuaP0JaWcfyqoRroRsoRtoRuoRvoRw",
   "oRxoRyoRzoR+ox7v54y-m 0gPBFDGBJHMwRTcRTgRTkRTqRTwWMgXxmnLC 2yZ4af4aj4an4az7C2AP6SrbYNWkN2kN6kN",
   "Ao-+ P50RTMUZ4iFfm3y D97J19J1HJ1TP2pVcwaxDbtGcaucavcawcaxcayca+ca-cb0cb1qOdy3V+OV-dK 7D2FcjGUF",
   "bVyom-rkezIs AACJ+LNw6TFEcB8oN4-Og 2tq8baIL7InCKuNRJXdNkvzE+Xc+Xg+Xk 1IE2K2LFuLFvLFwLFxLFyLFzL",
   "F+LF-LG0LG1LG9LGALGBLGCLGDLGEQ0JQj-Qk2Qk3ReIReJdVeliMoXY OEGP-efLAgOgi4wqdutTu-xM 5MK9UGJkyQeU",
   "ZRC 3xDDLtG43JX5aKzqPc 9Ox9Oy9Oz9O+9O-9P09P19P29P39P49PC9PD9PE9PF9PG9PHE9MEs+Et0Et1Et2Et3Et4Et",
   "6Et7UZQYTtnHhpRc P6yY8vZdB 7xCOdqW3zYfxcCn 1Ti7ua8yaFfqGhZLFyM3XYvedXDpEZt0fwX0zX+zX-zY0zY1zY2",
   "zY3zY4zY5zY6zY7zYFzYGzYHzYIzYJzYK 2Ij30230330430530630730830930A54oCMsQpeQtheOh PuYgXDhCRweF N",
   "kZUTFXq1a9qdAsubp BZ8Rq+ZVnitDnh1nh2nh3nh4nh5nh6nh7nh8nh9nhAnhInhJnhKnhLnhMnhNsRSt94t95t96t97t"]

/-- Part 2 of the rows of prints. -/
def printLinesB : List String :=
  ["98xMM 44CakG KPZT6AZru CtHPJdYvN BC3BCBHsJHsYbq4bq5bq6bq7bq8bq9bqAbqBbqCbqDbqLbqMbqNbqObqPbqQc",
   "RUkb3lkCpWf 7XmHfFHkJKJuKJyKK0KK6KKCrF3vEF 6se9mFQYKZnufjspDMtd7 0z6KizM9YaX1 3piE8pPz7Pz8Pz9P",
   "zAPzBPzCPzDPzEPzFPzGPzOPzPPzQPzRPzSPzTS+9Z2HbYfuEYyibzuO 1oO QKWg8kiUltv5-Be HfOT2Hbsaf-vlYFmG",
   "PxD4yKgz1X 3yh9-iIsbLXBgXj+Y7 4M+E5FG3HVTcXDCbSybj5bj9nHb SW6nCgnChnCinCjnCknClnCm-Ka acvkHhq9",
   "fvFHyEtyEu 16V3DYF+6F+7F+8F+9F+AF+BF+CZ3Zwlz JNGg9X 2SVJVSMricbQkjWs4Xzu9+Hp 2pk4CnXkXYQUZDvl+",
   "Yu6xxLwxL+xM8+XS GfYV+1YDVv0I 2GLY4nlXLtnWtnatnezJQ 5ZeCqxMBgcR8cR9cRAdcYi7h 6tDBCZDtfXg4Xqlgf",
   "zhTpvjFvjJvjNzrF 2q-OJ+P1LZkPo+SuI2 GlHGlIGlJGlKGlLGlMGlNGlOGlPRQdR+ElE0-XJ Qe9SOTSOXn+8 ao5bA",
   "Zef5giCnjv a1Of7AnnY 4uJ4uK4uL4uM4uN4uO4uP4uQ4uR4uSMuaMubMucMudMueMufMugNHwXQfcoWe5ZlVQ 6enC+L",
   "JGnLYeQJ6XXvwnP HRGHghW7aiWw+93+eH s9av1Mv1Nv1Ov1Pv1Qv1Rv1Sv1Tv1Uv1Vxew aFGfURndAv4mycQ 2zM4-O",
   "57H9eHI7pI7qI7rI7sI7tI7uI7vI7wI7xI7yI7zI7+I7-I80I81I82I83I84I85I86I87I88I89I8AI8BI8CI+H g59kiu",
   "kiy 1A2CLFEEqGyhIclIqbUZNUZXeUbhKujAPjAQjARjASjATjAUjAVjAWjAXjAYoML EMKccHtwP 65LBa4KDFUnSYZ7k",
   "eB 400AHRAHZLtsbjnlNMy8PyjezjX 0Dk0nI1n04CB6wWUf3XJSiRqySi 3lN8uQ8uR8uS8uT8uU8uV8uW8uXNv7OiiVn",
   "JgOTonmqTC 7HzGpPgHkqCCqCGqCKqCQs-hu1m GCPOF7eqjq07vWsvhBx6dx6hx6lx6rx6x NsgiJYkw-kx3kx7mdnmdo",
   "mdqmdsmdwt1av3lz1Sz1Tz1Uz1Wz1Xz1Yz1Zz1az1b 38K7bN7-sdmkzIH 55eDZQJcBOYFqfg EIsMGPMU-SzmWexa-Sb",
   "u-eszkCMwKp 8XRQ9vQ9wWyWcCTdPVnAVnAWnAXnAYnAZnAanAbnAcnAdnAeq7ErpwyYO 6AO9ztQCKmA1nvAp-E 8ONQC",
   "+XnTro3-t6 DeCH6pT8xX8AYokfhy-J5 1fL4bpCvfEIzbJYbJZbJabJbbJcbJdbJebJfbJgbJhx+O ZUH Kp+LEjQrSQr",
   "dQrhQrlecWftutcPy8L FkEVKBePSfvJiz5 BnsNVFPSbPScPSdPSePSfPSgPShPSiPSjPSkkxbttqzLu-rE OWyouI 4r",
   "UCbkkMBwksyea 6k4Hr2NPbNPvP+lT44ZWSZyAfe2g5r-VJ 1B+1C01C21C67Cc9WeDbeDbfDbgDbhDbiDbjDbkDblDbmD",
   "bnErtWuEn1Eyg+ 0MNSTEWutbsPuvRuvVuvZuvf 5fXDfIX1TYRbYRfYRjYRpYRvdM8k2X-35-NP FWSZOIl3QsDGsDQur",
   "yxrI 0sD1kh1ki1kj1kk1kl1km1kn1ko1kp1kq2FgDArGlXV-eX31Yj1fhCiufiujiutiuzjCTzpV 4l7AFHFCdRdWUFPg",
   "wKiWR QT7g5b 2CS8nm9LFn4Wrtkrtl 1qDFnvJIEUzKh4zmAl J1sJ1yWUduYN 3qMA99BahJewm3Xo6wpNi 63C86GGY",
   "FVnpgao MtzRHNRvitOixNq IFFMckW3OeilrDZ Mc3QJrSE-a82dznd+9u9T C7XFw8G3CG3NG3RG3VG-CP86V6YYBE A",
   "x0IJ8KnSStYg3Di62kyb 8RYJhvJi1eRFfmim1G+68 OLcTU6WiOXq7i4oi4uoHO 9dpBvrLxqU0-+V6 1gD4VICVlKcmh",
   "J+ 3cq5ukbBobBpnqhoFB 6qQM2FPVrQB9dYwe3PfRbvXcxE3 3GXLRvOK0sy3 7jyCryGOJW1sX82 IwQPo+W2icOEjBi",
   "j-T 26J5l1HfdQbzqBx 5J96C08NaYCzZcym9umY7xoR 4YB62NvsF CmHDuvJg0QXHg9q+vS+vT  4Ad4OUNlnNlrNlvN",
   "l-Nm5XH5a7dfXWvCPxc4 6v9CxNrcitapxyS 92sJqoKLUTtHTtfcFEeP8hJdsKa 6WQ6aPOQmQe3ZAUZAYZAeZAk 1iRE",
   "vlSCCYAoYrvfH5fH9fHDfHJfHPvOh 2vh4Vz6EX7avBXcEaVWxdelvhvprlrt-x 2pN8ALKDuZf2pGfpGgpGhpGiskZ 2w",
   "t3b84ra8vf8vnAvtN6cQh4VH6Vv0eRseR+eS4eSAn5nojEpgyxxW 2Rw7UJTQCUfzjccrH1 A4OCYACYBCYDCYFCYJMi+P",
   "WSQpWgx9nG- FIwaVBeGc 08F32g6zSIgiKtARH- CMdETcHW7I5fIotz9j IzqTKVh5TpJVsOStukzNNzNRzNV 4xsGpW",
   " 1uF2E84k7MzfQiCpXKpawvbD 0Mc9MjGuuPB1l28 EGIR43dCpepehMRk-zlm0n9XnEjvUH 0Q90QD0QJ0QP3ZZ4Ju9wX",
   "9wf9wrC9ZUoWgL7 LN3VU5X4emnR 9QkAY9MoiXwNYNQz65 1Xu89LALfJNZKfpS4-WWkZ90anxao4bfTbfXbfbbfhbfnf",
   "ODr-ZvWM 7yDdEQkaZ Jgc 1bc3UlT6NT6PT6RT6VdLwoIiovQt0p 0mn5J7NI3Qw5ZowgZB B-1F3HOhIyiW EWN NbRk",
   "bfuDM 8cqBDFHvVO44O+RO+VO+bO+hS34Vs8WUaZ1rn4pqjotwj 0N91lw1lx1lz1m3IoKPk4kctmxLw8X lL0--K 5lDG",
   "B-anBjMUloitrJ+-n 72wFizIc-MVmVMutv9+f+ iMmkNA 32W41W6E76EQ9eiGTAz+D LxIV5ygQyjWupjCrMG 4YuBaL",
   "I4HOWPUIwUYPYqKfZ2sDMzZF J9GMJFkZq 6kTHN7aTw 3yyJM7O4oOy-XfxdsFt66 8Y48Y6Osw+Nc 5Me6CPIjhLVqmK",
   "G 7re83vF9FQG5efMsZF 56PTBohijoV+pu5 7-WIK7IK9IKBIKFOj5Q4UQ4YQ4cQ4iQ4oiiA U7oXJvYfZcqcgRlpk6qG",
   "1xIU 0D60D70D8RB1VYZWWcnNOsVvtBZ-5g G8LO3jWPJh31 4pX4pY4pZGzvrhqxY+ 8yLJW5JYbKbeRBzbgvqMAqMBsg",
   "PvqYvqoyo5 72XHCHLK9MjtSdi 4HOGnISB1h7I 5Pl8mcdFxi0w H6KPoaSdidTcdT-eVErgL AvpDxAEAqts9tsJuQRw",
   "77zNf MT3PC6Q8qa8Fi8U FsycK5eBiu12 3HiICYICcICgICmICsICw FDKKaEM93XwIc1FiZUicSkCYkCZzSB++y BXY",
   "Oz6ZuGelmhBZhgVr5Y-fR DSrOolU2SXYerRu 8ATLMDY9rYiV FkRWiXacPxhB pCQrKs 5HRFxiJH0WkXrDz VsRgnM ",
   "4aL4x0C44C4BEBkH3cOHjPXvPXwPXxPXyPXze3sr4L 5urAoTCi0dgVnawvH3 51kMfoUFRYKAdnr 4PN7-0GHgI0sMyJR",
   "6MXRYlc0uWQ 8+dIaEJCFPCqQgVp34sQ7-sp Aq1D-tr6yuM7 KtDUHOrH1xSnyIj 8-f 73WIO3IQZMGuMGvMGwMGxOGE",
   "RMxS5kYvAYvBYvCYvDYvEYvFYvGYvHYvIrSg 900QQbgnjlZkliOliRzUD 68F7y+DDaIanJ21gtohEPnO7 Sj1Ys8d7Nl",
   "GalGcnGjtX5 BVaN2lOL-dvBgJegJfgJggJhgJigJjgJkgJlgJmgJnxdC G7lZr8h-Ah-Bh-Ch-Dh-Eh-Fh-Gh-Hh-Ih-J",
   "h-Kh-LxuEy7+ 5bp8Q7JsulZVv8S Am3FLDVdAVdBbPmd2qiBFrHgwZs 9xePUpUSiUSjUSkUSlUSmUSnUSoUSpUSqo2Hx",
   "R3zkF BecCKJSDLcNMlNhrKKwwO C6TIXoPZ2SllrDv O+JO+NO+RO+XPYpVzTftOnZR CNGFivIbkIblIbmIbnIboIbpI",
   "bqIbrIbsIbtKgNXnDm7czaA DDCDDDDDEDDFDDGDDHDDIDDJJCGLGWLf8aOBaOFaOLaORlrUr4K 3Gj8GS9cIQ2sT4NZhe",
   "fiT CsbNEBSQQXXT 6kn6ko6kp6kq6kr6ks6kt6ku6kv6kw9DEOCuoGmsQ-tql 8QJ8-3EpVJCTU85hrPm1IspvxoV Ctb",
   "NqhmzooFjoRX 0-h1qv1rvITySlnZs+hTimcDqf5qf9qfMqfRwtqwtrwtswttwtuwtvwtwwtxwtywtz-Qd CMMDqUETVLT",
   "fNnLVfAYNsfaRhzoiG2liDqPKrJ0 9RWlxu 2Umn-o 06kZrKl0tl0ul0vl0wl0xl0yl0zl0+l0-l10x4t 8C8Brte8umz",
   "aqIttxKy8+y92y96-3o 24524B4bF5d05-2Ds1EBLHPtRGoY4JY4NY4VdfVvMAxCP 06b1Wo485UyyaKPan5gLo-e3 Vow",
   "Z9wZ9xZ9yZ9zZ9+Z9-ZA0ZA1ZA2ZA3ipFkI2rxK 9ZvAWGJy4NLsP9+Phulv5mHomHsmHwmI0mI6mIAnVv-ZW 5ejQAYiT",
   "L+G0 2fGNjkoJQzaw GUWN4LNIzNI+NI-NJ0NJ1NJ2NJ3NJ4NJ5NJ6 18sChcJmOP0+P1kZmfaQraQvaQzaR3aR9aRDcxb",
   "zt2 1sfIinN90RQRYnGYnJo6upXsu74 AnpK6oRomTDFfcZ+8x-FN-U2 37I4+ZBS0BS1BS2BS3BS4BS5BS6BS7BS8BS9H",
   "MCUOgctrnP9rOwyX+ 5t7D7YFZHOZuOZyOa0Oa6OaCchr P2OaH8etnetretvet-eu5lvFscetQf 6Z8GlmP49ZBxd7hes",
   "TiPxvBRvMP-b3-b4-b5-b6-b7-b8-b9-bA D2FIXemh1shWv6v 1Gb1NUCjILXMVQJVQNVQRVQXVQd-+U 0RKDMMON1c7f",
   " 2t077arhu 55OAIwKTejFgrcfrcjugl 0r+0s60sC0sI0sMCyagkorg9 5WcCWyQvZ 02Haf3goZiGYwpg GLecoYqIpq",
   "-1q-5q-9q-Fq-L CaBOAhOAiOAjOAkOAlOAmOAnOAoOApOAqOArOAsOAtOAuOAvOAwOAxOAyOAzOA+OA-OB0OB1OB2OB3O",
   "B4OIiSwySx7VIGh+ajAqznX yVGzBX 2iGkysurq D6AKT4LXiVYgWS-f84f88f8IkZP H3uaCBahKbBqgKJ O9bSq0YbW",
   " eN1eQ6iWHlqa-+R 9gpBS5IL7LxjTHBTHMTHQTHUb-ic5YhtR 3CpDFMW6+XEzbSPojHzs2-N4-N8-NC-NI-NM-NO-NP ",
   "405D2iDbyDc0SlRXFPcTVgQooZK 3f648o6VTAknDXrEVMFqUNtfUQmb8DhhdkhLlqHrOGzpo 4MV4MZ4Md4Mj4Mp6B88w",
   "cF3lHQIHQOHQUHQYWCLhDtitdtZj 47L6IfC6cESmQ6aYGy 1678QAQQIUNSUNTxIU+qb 0SU7vDafNfXJnz1oKL 05a5Z",
   "D5ZH5ZL5ZR5ZXQzubArcyijUojUpjV1tln BgkS2cXfQq-asyc IWrLzdS2wpC5tdB 5ScAg0MQfMQjMQnMQtMSXUNDc5u",
   "d4yviGviKviOviUviavieyr0 0oxWZyXeMXeRZbAZvKqvFqvGqvHqvIqvJqvKqvLqvMqvNqvO 54i7OWVcndvMyey 8Puf",
   "z0fz3hUI+7W NxuTToXIuXIvXIwde5jrJjrNjrRjrXjrdjrhpoSw0T EbgLn8LnKf2If2Jf2Kf2Lf2Mf2Nf2Of2Pf2Qf2R",
   "g-Usp9vd1-8j A9mFTdOpvXMjfkika-vz9wTbw-2 JsWN53Uxqdp8jMx CWTEN+KILLRyLRzOLJX+MX+QX+UX+aX+g 0pr",
   "0ps0pt0pu0pv0pw0px0py0pz0p+0p-0q00q10q20q30q40q50q60q70q80q90qA0qB0qC0qD0qEOheQIURnZTBLTBMTBNT",
   "BOTBPTBQTBRTBSTBTTBUTn5VloXgSaDl 2Rz4dVDEqWvEWz-jSezW3 CN7afKsl8w5V 9b0EDiM7eM7iM7mZFd+Fn+zc-P",
   "W A5FA6FCvJHKOHKPHKQHKRHKSHKTHKUHKVHKWHKXXoXXodftjtXS 1RtABHjdgjdkjdojdujd+yQS 4pf80SQgTT+bm0r",
   "pK5sg4sg8+7T-ZF AGSAGaAGgAGmAGqr5Grwlrwrvqv 1eP5TR5TS5TT5TU5TV5TW5TX5TY5TZ5Ta6hAXGp 5UY94yMOEM",
   "OIMOMMOSMOYTy2Ty8Z6mpfGvuU 1R7GN1YNbjmY+Pd+Pj+Pp+Pt 74sAMxNp7ZFXcLWvcUvcVvcWvcXvcYvcZvcavcbvcc",
   "vcdygY 9CnKviVYL C4KGDJGLTXLoh8tkgEkgGwFiyYp 9FoBNpGP6HmJoYYoYcoYmoYsoYw ADJI4XMDUSnWfazjlXjlY",
   "jlZjlajlbjlcjldjlejlfjlgu2o IWATxRkFQ p0Vue4wE8 chbchfchjchpchvchz 5b+QieXuaXubXucXudXueXufXug",
   "XuhXuiXujYtwa+YsvT 5uaIfV 52jWfQmE3pVYrGV QqeQqiQqmQqsQqyQ+OTYMeUVsXp 3094PFJTDM1dM1eM1fM1gM1h",
   "M1iM1jM1kM1lM1mRFxbB-sCvyZ7 QuRUHXYlKq2o B5MB5dkUlk-c Ak0D35EzvqvJqvZ AAgAAhAAiAAjAAkAAlAAmAAn",
   "AAoAApFQ+JumZsZoyO Av2JhJuts 8xNB6AZ6ah3g 36k36s36y372376aKPb6G Scke3rfK3fPmm8OvOBzG3 BBREBWWV",
   "kX3ono++O3+OJ 0LSChDRwmXXCZ41cl8oP9tFntFrtF-tG5zHR 47H8RxKnZSujgodhDqiKH EBxiawicLmDcmDf 3NnE7",
   "GnDc 9o4AYHIzOPB0hOyhP2hPCo+v-XB 1+qGbHI3EIIaLC9YOQYd4x0VzHl 5Na87KAAjIOOOyc 2I+9JUX34sW- P81V",
   "X-VY5VYBVYFaGSettyy1 IneMXTZd4baR FvDXbeYb4YoYdH1jAgjAhjAijAjjAkjAljAmkj7kj8kj9wHB 2yi4MwIY7Jb",
   "-WbkZSyb-7g8Ni9L+Ct+uh+ui+uj+uk+ul+um+un+uo+up 4moIPwJgwJg+Jh2Jh8JhEJhIJqwRGuSWN 7aFAgWHzAMCqM",
   "huO7cU0rbmIigX 0N43lmg3Wt0Sw95 EyAWy3XmQZg8p1jp1kp1lp1mp1np1op1pp1qp1rp1suntyFA FPxKc8KcCKcGNl",
   "OcHueqClBHwSJ 04QRYboHb 6y+EAhLJieRBj-vtQ0uS6uSEzWu 8jjDiAG71J92dAmdAndAodApdAqdArdAsdAtdAudAv",
   " H2qxEO 6-vEbJH8Wwyt FGEFoYJ3GMjHcdofpOryiwbR PMkRJpRJqRJrRJsRJtRJuRJvRJwRJxRJyji3yF1+5o 6KFLj",
   "Fd5ffqMgylkEakM-tVMwDnwrFzEL 6ZQAndJNLf3y 6QQLWeWMUWMVqr5 AxBFSsFStFSuFSvFSwFSxFSyFSzFS+FS-Oy1",
   "QQVn1PnOo+PI BDeKSeL5OREidj0fjTpwGqH3xBv 6xo7HuCa9IcZKGEKGMYaEZK9mcA+-+ OjyVWNVWcVWhf5Sfm1nWJ ",
   "3Ai3bv3bw3bx3by3bz3b+3b-3c03c13c2CTYGasNP+STOYOQYORYOSYOTYOUYOVYOWgxYs7n 2wx3BK7069ERZYzoUjq1o",
   "xv7 6eRSTLX1m BIrEIqKFqOK3YGLjO6tkytkztk+tk-tl0tl1tl2tl3tl4tl5+pc 8HXCnjDhgJ2LSPkTAVTGrUXIYcEd",
   "dce0Pf03mx4tMCzNU 3WoE-3Mnayc2 1ILOg0Vo3gRZhGWrC4 4gRd5lht- Ad+NiIQPRqn1tfr-VS 6qS8fF8fJ8fN8fT",
   "8fZFSbVu9biQmj9 JEXNzyTVFYrSmikmil 9O+GZlyPGz3E JZSZJWgqyhou 1xI9xUAPZOgSRQARQGqPgtHm 2KVCAWFU",
   "jHYkRHTXZCqju BnYRDDSt9gFpjitkBLnkAo3GwfJ PodQtzSUmSV9Vxx BcaEY1EY2EY3EY4EY5EY6EY7EY8EYAEYBEYC",
   "EYDEYFEYGEYHEYIEYJEYKEYLEYMEYNEYOEYPEYQ DnaPacTbDdqk FC6a6obtDuxt 3riDxgK4+P6ZQydqgoxAmyDz AfO",
   "JiJS51S55S59S5FV4fnfevgRxjD FFaJHaOfRaznhIxjMlygB A4POCblZ-m4BnMGnej 3Rl6JZ9-cF5TF5XF5bF5hF5nZ",
   "pYsF3 6boHTMekPwI3 FkCGqGMzvfJzhYDpNJq-+ 6XY7oc8M6iMwqbXqbfqblsDmyN4yr4 3EW3Ea3Ee3Ek3Eq5nXUOsj",
   "BQ 64e7G3APnBnlPBVQupstD 5ti9bvSwYXwLs3Ttbx 16V7rgAhYJYxZ80eaJgMpnJXqlHtNZtNdtNhtNntNtxq5xq6xq",
   "7xq8xq9xqAz8q+f9 0pD5nmL52X6seShhXW F4rNo-aB6cJKfBOoy8 0r3F-EqHbrr0-bt 0kq6P5UVsYbwafAhNEhWghW",
   "p 6W2L-vel7kf9xYy K01 3at6vq8dgJ-QSYYcQexxi 9p6IevOoDVffVfjVfnVftVfzkqi 49F9K8aTHcUZszkua6vXp ",
   "XUgwQP B2dBV0Cu4E8NEXvGhgGhsVqDvrq+Rx 6nyCxGJoiJomJoqJowJp0MVHQBCQgKXVHakZ 2k1C0NhmPn7e 0Vv9ee",
   "CrpHCzHDLPK0YjHhq1hq2hq3hq4hq5hq6hq7hq8hq9hqAhqBhqChqDhqEhqFhqGhqHhqIhqJhqKhqLhqMhqNhqOhqPhqQn",
   "McuIK 0yJ4Nu69THghKxKQeZQehQenUBr 7xl7xp7xt7xz7y3FDLFDUMhdhtN 5xuAXrGnSI3QPhhkhRq9o JkfiG8ojby",
   "7E AfAEoCIKuKl6M7tcRVcRWcRXcRYcRZl42wpdy4- 1EQ3UU3UY3Uc3Ui3Uo3UpRvou9Wu9Xu9Yu9Zu9au9bu9cu9dvaz",
   " We7a7znuyxGw SqETohcAVfcumt3r5aukV 1WqTxpfMPiu7mDrmDvmDzmE3mE9vBExgg 4FVD9JOGq 7rWDszDt1Dt5HP",
   "4JihKmaQlGW0MtZi 95+IRHLjfVtQY4npfUwco 2JANM8aMuaMyaN0aN6aNCsXr 198GC3Pv3XGS CEliQxoIfw9Lzd2 6",
   "XyCMULOnLOvLP5kY-ySk BSzBVBHeVOVxOV-OW3OW9OWFV5gVnbVvdVvhVvlVvrVvxVvyYhqnEnx9g RgoTJf 0PkBHMKY",
   "YWP7XYLkUXvk0+LK 2tSBwhIN5K0WWv6b+whCd-eE 5nYCe+Cf2Cf6CfCCfIF60K2gK2kK2oK2uK2+K2-KlhSSibTzbc8d",
   "+xv6M 3FKFh+RaGgIEykE 6PW6UrkYWzh3 4bxAWzEO2dk-p8zxT- 0o10o50o70o90oF0oLMDuW3Zlktwp4 65QBcFE2v",
   "etJnzS J0ZRHyUi2YFb 6pLjUlqxHqxIxJb Ccd FZKVwJb2wpcVrvd 2srHQxHQ+Mf3OELPoIbyzbz5qXGx6A EFFFtBR",
   "dAS3NUmcf47f4Bf4Ff4Lf4RikfmTppm3qfxuXlwCyzP2 0+OCCgeUUjNklqFvDY WvjYQE+m8 9g2FPMMabMafMajMapMa",
   "vQ68Q6KUZzpGEvFy 51fN82QJZSZ8UoKXb2acsacwac+ad4adAadBiWpxbAzZK 5GKdtzfzprAnvCW K1E EF7EFBOjlp7",
   "dx1A 1RJ4LTEIjHMDHMHHMLHMRHMXOlvOlzOm1Om7OmDOmEbXQjBdukE 5BKW-HZfjbz1dO1jLZnVjqbJuFw-6E 1622r6",
   "BOknc8-Nc 2OAPTMRlAYFJiTJuUWyjn 5VG5VK5VO5VU5Va79+CuyCv0Cv4CvACvGCvHV8wV8xV8ymGH+gZ 7yESfSmDZ ",
   "6fzhqRhqVhqZhqfhqlsjy WKOaJqh0XveJveNveRveXved 6OUKCcNbnRoPZIorx0x8S IPwIzNLdTQlmUsbXlVqA8zpl ",
   "8LiBNoHILJZSJZXJZiggCggKqZyr-MusK 2KZTI+TShjnZkEKokfokjoknoktokz 4vp6-YL1GS2SW91YJOahBbqgjZxpf",
   "V+HO TWXdSQhfninG DfEH5fYr7 ENfLgSSjHXwPXwTXwXXwdXwjcQ2hh1jWJx2f-tt G0ErY+uja 4D6MKyflp-lr Iyc",
   "ePrgslk9Y 5GEAtuM3SM3WM3aM3gM3mePOfZAgHojyxtxCv7Q C0+ZpVxBoyz6 3uL3uM3uN3uOI5zMvFMvQN-0OveRSJd",
   "6fm42v1AvmIw+NxbYxbhxbr+yG 75LJeIUAYZmwqax CfXFkwHcBHcFHcJHcPHcVHcWa2sxUR 4BLKdkbxtbxzfuPiL0iL",
   "4iL8iLEiLKiLO gC+pv-xEi 0+B5j4DSSLq+iQE+LY+Lc+Lg+Lm+Ls 5lE5lI5lMHtkHtlHtmHtnHtoHtpHtqO77O7BO7F",
   "O7LO7RVWu Jl9cedmfAmfBmfCmfDmfEmfFmfG G2HOrDc17erelNClNUlNitOkvFY VSbdTLhHUoUboUfoUjoUpoUvuJMz",
   "PMznA DynS94XjxcJicUadkckCikCjkHEkwuvGSxf7+tc 19Q4qxL7XZZnp-YqYbwdx 4W94fyXtW GiVj0HrZCrsnv52x",
   "XY CDmKrzSH0YLmiVrnI0 9FQmErtBNufC 6PPCfxEJDEscLQFkB7nQLnQMnQNnQOnQPnQQnQRnQSnQTwSA ILfKD6P5lY",
   "ANYARYAVYAbYAhYAimYRoSR+V0 5kW9HaN3WYlRoHnslryU5 E-UTONZigioFqhaqh+qi4 2SH2SN2SO2SP2ST2SU3qrJv",
   "QOFYbZNbZObZPbZQbZRbZSbZTbZUbZVbZWecmtZetZftZgtZhtZitZjwhd-gW MuCWnui7ysyk+WH+nc 7aDGPmW-a 3tk",
   "4AC6TdInEPhdVyWfQwgoonCbrJQzGB 54hFNqGf2PGwPiQPiRPiSPiTPiUPiVPiWPiXPiYPiZVse 30TASTASXASbAShAS",
   "nASoB5mCSOLvYU2pZEcehuei3kxP cQ2f4FkosooTtUftUz GVWL4LcMJq4ovf2xAEy65 72uDrTDrUDrVDrWDrXDrYDrZ",
   "DraDrbDrcPWURm0Tkcrkgu4T BMGL1dRkDST0YzecvyirC 5ob8uVEEIV3HdDZmvk-xH-xP-xb 2Lh75hNCESfxSjtSjwS",
   "kDUtLZ5IZ5OfKdjs0js8jsKromuZlyz9 1+W1+X1+Y9anwRP 30Q41ZNmHRC4RCCYEipJQpW8 FOkGTEXoRq4KwdWwdqxL",
   "nxvUyHz EcHEvyJ0STajZN7gws-Nx 6EeClDPcBUiE P+zQvbqRr+t2+x4-6Y HOvPJzWGHeDNgYHizpkvLvC9 1FYKeAO",
   "-oXiifCVrWr-li 6DtPKSvGL 59GFvuHruLYDeo+s+E 02mDR-SMQVOCuWSv93v9Cv9Gv9Jv9MxIU 6EBDFDGLGJcnMBhS",
   "lGUt4UtEjNYqPvsmoypp 7azJa1WbrhQ2oD4tdL 7SFOzoREJZVBdzYe+4e+8e+Ce+Ie+Oe+Skwtvx1zwF 35I35M35Q35",
   "W35c5rx8GVjIDnKupKEtYK 6MyIXrUf2ZJmaBoklPy5J 98f9n3YrUicivON 5HDCvLCvTCvfLF+ LG3QNV-N- Kc3WCUn",
   "mI G69RKjdtVjV-s2us2ys32s38zTv 12O1V5Be-F3KMCrZWnZuuo+QunZ MhHOYwSLKnrYpLgua3 5XNCtPWC9 4087yU",
   "B84DEKrBR D29Od1OdLWWziwckCBqRb 3Ur9jFG0iIrSMgaSY8mAuoX1 5McE5OSCMUbXcdscdwce0ce6lTVubLubPubTu",
   "bZubfzza-50-Kd 8xUFqNercfKUrYNuQoyWC 0uu2HVK-iX3nbCqbzycHOuKqzsI-sh--n 44cHcHdcbndL 9UVBLFOe0Q",
   "L0TApV-haWcizZlMTo6UxkI ChhGvQeV1ee1nt0qRczGU 1LmLCiYcmYcncOXcOZcOefIFiG3iG5iG9iGBiGGkVExPT fn",
   "Miocm3qyVt 7dAK61Zh6cFKcFbcFgg6ro+CrIX H1NW2JeTlpIB 8Hz9LlGMqWvwsBr 4ULGmDcs4yNM 2dTNeQg0Jid8 ",
   "5ld8m5NChfWCiORia2nDlsI7sKGujSzUo-ES PGaSOZWA4WA5WA6WA7WAcee3hiyiGQiGcsdR 41kdBNfV- n2xvug-3X-",
   "II 0k695nBn2I1ZeMjhDkndrob5-1v GZzQIcW1Wdw4 RKmb4icBFsm7wQ5 BTDBj5IolMKMdSsiJBk1r 81-bmukO8 8S",
   "bAE5Qh3UGsc8Ecm+qsr MkZVHgXIGZJMe0reunjjtpCa By+QjFU3KYAmg0EkyJ 4KUbSEdRBhGHlBsqVsus3 33u9IWuA",
   "1yEAzRZ LH1YdMZIqgywmHN IoSMJpkAXpsI 1+lE2+N71Rak 1EeQ5dbwlnB9 7ViBfRCD6G+XPtvU4cV5yd19yUu ASs",
   "VeK 8RJEUQJLsNqvQT9f5gh9Tlz1tZgtZhtZitZjtZktZltZmtZntZotZptZqtZrtZstZttZutZvtZwtZxtZytZztZ+tZ-",
   "ta0ta1ta2ta3 R3trY6rYArYE+Xg+Xo+X+ 4GaSHHTK9mQImQPo4aqWp+bv 9uyCZGDbRMewOHQU2iWEydNegUksL4 ANf",
   "CRgLHGLHSNbWO23Pr4foKjBAm29+m5 5CFMT4TmoXNt 7duNO2kdaokyu7k 8gyJZfgU7msvqdRqdSqdTtn5vOM 20p5h8",
   "9QFaaab7OnB9ptapvTpvfy-G Q6TQ6bQ6njCHr7ux+8zDl 6U-IkYPEAq48 1mH3MoAJbAJvFTLNLSUdAc-0dIVeH3hkZm",
   "ezme+me-mf0mf1mf2mf3mf4mf5mf6mf7mf8mf9mfAmfBmfCmfDmfEmfFmfGmfHmfImfJmfLmfMnCUr7cucI 4LLGfROQtX",
   "mPYKif8HiEOwHxxrsxrwxr+xs4yQs TrSfrgjpDpbgzUA B3eR12RXuZVxdXT+50-Du BfEF2KImXNFllqCrRp+C6 FUaV",
   "sqaWMjV3jVFyAWyAX+d5-WK JpCZ-vjtxut6zFg+PK+PM+PN+PY+PZ+Pa-Wu 4DAT7SVOyXAVobhob-pTSzeIzeO 6vGKc",
   "bURjWfGcAxs77 87FZvmkLQnb4 Ny8Y0+hSVnIP 3J85jMLCJRZElTLp94v8+ GKOIH+ekQekSekrfRwuwb 1zo9GNLCxW",
   "CuggnphWzkV MA1TEQb1ytSBzxW 28AHasMuwMv8MvEQq9cJrjWlnqTrMX CPaHb9Hs+HtyTSMdBN IP-Sq6ZnAgA0wPs ",
   "hbExfO AY3B1zB25Y3uZKPddord3 7tyBLwGWhJX5U-friZ 1QEJWdSDnfoDfoHfoLfoRfoXkYvkYwq3yq-5 VkbkxHlU3",
   "y5x-B0-BE 6NSG9cOiyOj0Oj4OjAOjGWCgw7k 1nsAU0B8vHgxJ3nSS-a61hJ5xXBz0k 7qCPsYY-0Y-4Y-8Y-EY-KiPGl",
   "JYmpCobA 5m7Gf0IEuR9NRF4SuQWuAWuBWuCcsneMfi6ZpKBpKNufi+Sy-8k 1GyN+EfQ5 ClBOjmXrdlmJxEz 6A4NHLZ",
   "p9ckDtM6w34+DZ 80NL1EL1FPWCYs0i9HmJu CtCP3WTHfTMBbsebsmbsyhQ8my3uuW BMdnc8nv- 0AXgm5ydx 9AIXI3",
   "XrMnYLq5gzsU 03bEuhGyaPr6Q7kYlV 3dt3dx3d-4-cG4zLoRec7gIGsZd 8WKF0JLnLgt4mIToZLzjJ 4RRCgRGd+L8M",
   "LgSVaoYf+fatmmsoE8 2za7fZA89AW7TvSTvWTvcTvidpNgLnkaan2SuJg Ax9CEsKN+RoRtnb 39M8+tB02U-tozD 3uZ",
   "89mBKsBoILPUOAQTCQZvdaUTjuzqJdqJjqJp+sG 9so9tD9tEFxsTK7TKLc9elY2yUx JKGTicXflnMMtIP 3pOJtJoG4q",
   "Wsu1Q-BX 47RC9VcjVksrxOB 4iJHTAHTEHTIHTOHTULcra50iahqJn 7bjNaGa1shRS 1mh2jeI6SUw8 Gv0OfNR-EfGa",
   "qInveI+3K 5cD5cH5cL5cR5cXO76QJ4m9bq5B+12 PzxVaVq7R AsuXYrnt5y2U 4dJP7nQGCR4RRu4vlGvlKvlOvlUvla",
   " 0GZbOwhpXi0Esc+xO4 4w18I9 DEyEJ2K5PQchWZ7Xl-kyh ZluddJjuJjuNjuRjuXjudo1JpOYuiWvrA 1tpXdwfFGrE",
   "pwVB 7Vs7sb9lSLW-Lg1Lg5Lg9LgFLgLZKtlAB 0md6Rk8bUDPeV3ukoxko-kp3xrh 0IEEBcKRyKS0KS4KSAKSGSeOTK9",
   " 9G1DsRHpYSinYcrbJ1baEcwOh7psq3-G9 OjbOtXRbSS1abIrrW+ 5R3EirgoZ 9A3MAPMATMAXMAdMAjQIZSlDWd0am4",
   "amFamJamNf5nhajx4Oy-i HRCc2njuGjuHjuIjuJjuKjuLm8h-me 01Yh6Qmtapcx 0FJBIPFkdS5HX0ueqakboqqcum7 ",
   "8rsi49nvl ME7aHkcmpf1Km+Gm+Km+Om+Uo5J CGuCGyCH2CH8RexjjdsC4 0pm4fnJ8Qj3o+SV+SZ+Sd+Sj+Sp 4YA8MN",
   "EN+HHHixT 3-X8hL8hP8hT8hZ8hfOQneJlgqypK1pKHpKQpKRv52 F29Hy3HyJIKlKniKsKYVSd0otOi 8qnOfwOwUdrSd",
   "radrmobYobcobgobmobsyrC 8WuBxoYlhbX1mKNmvSrKcyqOyqSyqWyqcyqi 7OFYDNo2booLooToofptMptQptUptaptg",
   "xUcyd- 1z5E3eJaI JzwR+VY+eckbckfckjckpckvew0mvY 0m0D5jHxVPm0ZxJdK5mzRmzVmzZmzfmzl 0it7hL7tEDPP",
   "DPTDPXDPdGbaYvtdbGeKxfnGp4kp4op4sp52tKFuFfwBv 0IACYsn4I A0eE8bEHwG7YKfqQYUQYWQYcX-dX-oX-sX-wYS",
   "mYutamrbnEku+ku-kv0rhg 1nMHQ1RT8TZ2 PoDPoNfXcx2v CGhce-dfukETxZo-V0 2oN3h44Gb67uTcXTcbTcfTuEV2",
   "0sFp FlYPFXPFbPFfPFlPFraZHjVpqjxutgvZn eNrf8Bo5fwAK 4W57NAcHEflotKKxCz 39k39o39s39yCteD2xMUrP5",
   "4Yyplf2uMq 3kF5UnDOaDOeDOiDOoDOuFknJpgT80hLCngy 4836AeFNPJlOTxJZTEgA4kDUwZD MWGtIntIr 2ZMDMVgR",
   "fz54+hD 1Xd1Xh1Xl1Xr1XxHH3Y6rrL3 cjIpKb DOxFk4WhkgQBjinlaqsZQ BNOmlXnSi D6cEe5GHhrED-MK B9pUzb",
   "luv 2ly7CiCISKMhKqnS58VatVb5bQdfD6nvI LxYTnnaUxfD-fpjfpnfprfpxfq1yJvzTF+3- 5y0FETGUDKShKSrirrm",
   "e2npX iKLmN-mO3mO9mOF 3l38zyBunLZSQs4Qs8QsCZkWdnVd+LfBYn8C 1QZ2YCBDlFYYKJQTymTyqTyuTy+Tz4V-8Zc",
   "1bFCkEqvSSyR5 3O34dG6gGJwrM9vRvOTxeZLlaii-um L1jNSrcPSeyzmlyokewAfz6t FNgMSpMSrMStMSxPK2SPcZDP",
   "h4ll0Pr5d 6AxI5pI5tI5xI61I67TL6YyQYyXl37nj+pNes6G QcNWy6bOKcCTj-Low8pSAtKmtOi B0HCLVa+Sh8rnFwx",
   "V2 ESmRj5eOdsXusxP 5Cd6Es6Ew6E+6F46FA7GFA4HEXpN5bYgqYguYgyYh2pnXsz7w-5 BT1BT5BT9LZfq5f 3XKGIlW",
   "8GZv5bOzlxw BCrDluHJ0QP9R05juSwMAwNvwNzwO1wO7wOD 6rr7OZDLnHRZX+OmDe 479DN4IagXrc 7e-8jc9of9og9",
   "oh9oi9oj9ok9ol9omEruPY0ldfvMDvlovtU VZUeXTyu+-NN RGtWhadvmishsam XM3iTJkFLmNTwMNzuT Dh3Sa9d0-d",
   "11d13d17kVkkwsoO1 SoVYf-Yg3Yg7YgDYgJepIjPekSMntxqVZ 29J2+NPizbFLi3c VdeYSKiMtn7E 1J-3JqHuRJiLJ",
   "iMJiOJiQJiUUQglixqdRxJx Mp2Mp6MpAMpGMpMTolgT3vtj 7rmS1DS1LcEKpbKq8hxx3 IRnIeSMfWNDjOhCWVwWjsaZ",
   "Krz9 BwRMAtMAxMA-MB5MBBxUh Ay5Ay9AyDAyJAyPJbNLnsRoWUNpdH0enpowK 1z76PwAB1JZOKuZegv 04ObVboT7og",
   "Gzw2 Bn5cBqwv8-58-5C-5G-5M-5S CtUENgIdfW0MXXniKD 0LB6w9J6TKnoRCpRfZVi-tfG F--LItOxwUFFZsVfjijn",
   "tmuEoderuDruOruSruWu3T+xg-nS 1IYCSSMdZSkyTk6bjLhDKpEBpEFpEJpEPpEV 44kG7ytDay8A-id W3IdtTyx7 36",
   "TIOIIT7W7BaGYaGaaGcaGgbxceiJnS8pqwpr4ya- MgNZlamNGscJx5S BP-CqAIZnIZvIa5J8lZb5ejTibEibPibTibXj",
   "YTlMSpkzpk+pk-pl0wFD-xq 2jmBeYCdrIyHfiLkdLn46qyZrixx08yHy 6XLI2-N7BU5IY3Pbow RWHRWLRWPRWVRWbaK",
   "3iMwqUfsRjyUc 68+68-69269N69P69TqMWs4N+72 ZO3bD9frpfr+lMplS9rTiwgiwyCyRV X2fizq+-9 E+0FfKFfOFf",
   "SFfYFfeLIufb7soe 2bhbHxeu5 0Fi1XzC+3PMCkFNkopkpRpTt Df2j4-+US 3oN3oR3oV3ob3ohBQFF12NwHSmq CaeF",
   "TgKC8T18dNXfie-FQ 2vdBSik46m94 2Ca58SB51GpZP1zUgotxQtxUtxYtxetxk 7T5Z85d0ikyGrLm HABKpNemIpwW ",
   "1eI81AGHBJelV21j2tjDzkkgkkkkkoomPrA3rsO 6PPPzwQbfY+2fZCfmji4Ti4Xi4bi4hi4n 4pK4pLN9E MUlZ4MgGT-",
   "JH 4IRAg6BEaqJQwm8 BJVE6zEiKiXln4FoDkuyOvuo AawB16B6fMYhTorYRkZ55bRhbRlbRpxKV srI 423Da3LKJNR1",
   "YuG 2G06eklnL EAFZUZcSniUm-k+ EvjKVxfxg 9TXHvUcgshYhsP3uhT HjXNSHXX7piHvbmwrK amK-L0 6SBBi3omU",
   " Em5M2eM2iM2mtSu DspGBqbKsjkptFtubq 2yY5Uv6JKTJddKHw6c 5x76Ll9ieCV0IMkfYYyO-ze2 UNbUh9e3f 7y3L",
   "uidl7uJLxyf 4LPApPNfvgVOiMMjkF 3UUV6zdaxdayda+db0db4d-Vo8Yp+stWm 8dXTTThfPrnCrnU 779AfxHiTM0jZ",
   "Toe1vtW+ XKgaC2gPAitUitYitiyoO CovM9PaIaaIufZz 1L86zFLmkXUohoUmUOndp 33U33V33W33X33Y33ZDraEgbU",
   "HzUH-UI1UI5VvOVxCsXqx4p 5cGNh1OGEYmgZM7ZqJght+um 0aq8QCBouSshZz-ccqccymjOqXQxjpycT 0uL6ewB2yHO",
   "LU3Ob98+CY BvEGd9d0JfqEsptw9B-61 0o46aoMvjdl-nwIrrytGe-2i 3N8FfNLeIQFyUgOeRWjgWlFLrOR FhpFulT7",
   "vb0aiYZyZ1 1UxOhQtmyxeW 1AdB2mGAcg3ZjiNu98u9Cu9G 14nHhIIu-bqAeGiznO 6LM6La6LgIz6e0OiVn 4oqODPR",
   "rgWZqnVznwuod2q+G S-z 31k31o31y322326e41x9Y ks9ksBksDksHpHw BIIUQTkjaoZAqY3rUS 1l-NuiUlLUlOlSe",
   "tArtB0tB4tB8 BBcIo3K1dMiac2--lO Y+Xd43nKgnKknKonKunK+pih BTjPiw+SM 64Wkwjx5U tuBwRc HWNNdDVtPX",
   "TPb8heL+nf8sEetRrvCH Rcyk1Czmb ML3fEo 2xDBi9KR1QomfVmkPWt95 3c1KMvPmBcU7iitypj EKSFl-dMJdMRf2K",
   "uSFzzp+2a 44Pqcmqcnqcoqcpqcqqcrqcsqctqcuqcvqcwqcxqcyqczqc+qc-qd0qd1qd2qd3qd4qd5qd6qd7qd8qd9 Js",
   "RML2bP1wdA 0TF1RSOkQinI 3RqE2kLkaRVLRVSXs3cJCylI 2yL4m24m6El4JiOLCaXvqbYuoy4 1Xj9rUIM-QpubrNcg",
   "y Y5Di24nVnq8p 8mqLtIYlqjdHuv5 cG+cOw 01+2f93MFCavMvsXfXdwJgUAjfPk6A 5Ll7GXK5lMCGPr0tmsulBulK ",
   "0Up3nROCcPYKkiGm1Im1Mm1QtLszxo BNSuIX 3Xh4VY5dz99IDAGJyUzW+ 8Eo8EpJ8xbYUtwXvIEw2xxDa 1Se3gdHZX",
   "N0BQu1SMrl2ArFVyIW 1FL4Kq4KyRSStYu 11EEwGJqwWdgiF1jM6o9fsHf AY7LsuLsyLt0M+FfqEi3Xi3Zi3ai3ckavl",
   "SDldMzxe 0R7JS6L1TMA1muJ 1t-PQqTIOlYj 8t1DTFPeQTf5WeFWeJWeNlRwxHx Lu+qV2+pB srP 2oC78nN4sOnWYD",
   "JYDRcjGlRJlRRsId 1DwK25KX7WiAokvuBo OZ6UztUzuUzvUzwUzxUzyUzzkY1kY9tEFtEJtENtETtEZz1P 0bF0bJ0bN",
   "0bT0bZ0bd+SP BHdKF+mUf 1X42Q-ZvMcZ+jYgpBUxEU 2gWLhlOSyfd8t30 GKxqQy 73995PRppTrxW91snz CoTcR4c",
   "R8cRCnls JiWZ7OetZetaetceteetijJL H+ncM0qVtsjizLK 3B-PDLQ0i+NN 57iCODR1RYbTZhS 1yR8o9AzILfuX5Q",
   "tlWu8O-EJ GS2V3jV47WFOdWR K12LGWLGiwiW 9t49t59t79t89t99tA9tB9tC9tD9tE9tF9tG9tH9tI9tJ9tL9tM9tN9",
   "tO9tP9tQ9tRNQzVzasoHx5s BLKCCNJ58J5GJ5MLEDNi2chxlrRu1wwf1 BYPRrtS+1ZRHmrHx6R BJKBJOBJSBJYBJeCY",
   "HEInX2ZZdheHhuF7 MoqOldO+ErR++1K 2ql65y7LeH0LaUilO0qmzr2ltODxCx LcWOWRSggjHM 2ohDYCv8B DopFh0I",
   "hvWpaakycP-vRmvRovRqvRuztX 6UtH-fNbpa2NnrLpI9xL8 01s5JwRWqi3iphpx1r+5Y 1mS1md1mh1ml5Zc5d8BknF5",
   "xW2tW33WgxcS3elRoYKxe9 0VVCQXNX8m5lnfgnfvpFJxdEyUe 2CO6YxD--Z3sbbJsIstWftrR-Pw GZpJCGK2-qF1vSv",
   " 2UhJ1mQ7ahqgtDVtPMzqA 7JHB9bRWT 0qF5pcJkrQS2gzhiQ7zos 2oFG+R JSXJSYJSZJSaJScJSeJSfJSgJShJSiJS",
   "jJSkJSmJSnJSoJSpJSqJSrJSsJStJSuJSvJSwLTvLYmMYXUt9V7gdNllRr 2bH3GK3r0W+-Xa1pcPvUy 3j75qLWj6iuRn",
   "xx+PL GQBJ6lVPxXCxmhd+JU-jQ MGvMc4Sgmbxjd5TgtUh7ToFVpzP+G4 E4zIiYY6iduMdvu 6go9pPLysbCoiZRydy ",
   "QMRmc- 4MK4vcGJ5GJ9StCVSBep+hnMmQ+vka 9SwFI9FcpH-mM0TZ2vzD3+kQ KvuSfPVOJtdfuGqv0bv2z 9nWBq9BqA",
   "BqBBqCBqDBqEBqFBqGBqHBqIBqQBqRBqSBqTBqUBqVbZglrYlrclrgv2f+L7 GNGdDcjFYlv8+28 ReKgTWtAZ I2uPjTP",
   "sGYiNa7va81kpJwcvwczwd1xDH-zC-zD-zE-zF-zG-zH-zI-zJ-zK-zL-zT-zU-zV-zW-zX-zY 1f07YsCT8S5rj64jBip",
   "-kx-8-Rn 5s7kRFl66  9QBThhgvAq6Fq6Gq6Hq6Iq6Jq6Kq6Lq6Mq6Nq6Oq6Wq6Xq6Yq6Zq6aq6buwM ELuJ0NKp-XKlc",
   "+3emng-Wlg0n+boODsVcsVisVjsVksVosVpsVt ZzHs8qw-K 5gaFftQANbFTbGVbgjqPr 5eaCnYNwAeFIeFJeFKeFLeF",
   "MeFNeFOeFPeFQeFReFZeFaeFbeFceFdeFekWgoYooYpoYqoYroYsoYtoYu 9StHpuQLldqRe+coz9wLX B1WE5RE5SE5TE",
   "5UE5VE5WE5XE5YE5ZHKEHKFHKGHKHHKIHKJHKKJb3UYMeEierphDshDwhD+kQLwZ8 Tj0eD6ipBo8huKT 0L12pa6l99f2",
   "PXvSOLSOMSONSOOSOPSOQSORSOSSOTSOUSOcSOdSOeSOfSOgSOhWW4 VIfXgEcJ6eUtpBh 2ET2EU2EW2EZ2EaJoOSNl H",
   "qggHMgHSgHTgHUgHYgHZgHdrBg-Nf 9nFGXOGXPGXQGXRGXSGXTGXUGXVGXWGXXGXfGXgGXhGXiGXjGXkOEwRCoT3iaWxl",
   "X+sxovtjzlu-kk FAWGnuOmfYeZdLzsNWsNXsNYsNZsNasNcsNdsNesNfuZJx4GzRh 51iDIcNVzOZzRl7dNegGtsdWwtV",
   " B2BI5PI5QI5RI5SI5TI5UI5VI5WI5XN-UYtXlF6 4gR4gS4gT4gU4gV4gW4gX4gY4gZ4ga4gi4gj4gk4gl4gm4gnBqvJj",
   "SX1iehpehqehsehyie+nuxs68tkatwU+Jf 1NZHemdvpgWZgWagWdgWggWhgWi AKvGERIzaQi0Q+zsTdsThsTlsTrsTx ",
   "2Ws6ER6ES6ET6EU6EV6EW6EX6EY6EZ6Ea9lWOEiOEjOEkOElOEmOEnOEoTqTdosdo+pTApTBpTDpTFpTJupUupVupWupXu",
   "pYupZupaupbupcupduplupmupnupouppupq 5TlUtTc26e9flDh 4wQ8N4UfcUfdUfgUfhUfiUfjUfkUfljJoxoA Cd-LS",
   "rOzQkHCqo0wNUwNVwNWwNXwNYwNZwNawNbwNcwNd+Gx JNmQgVatRatVatbatdateatgathfa4g69gDshh1iyXiyYiyZiy",
   "aiybiyciydiyeiyfiygiyoiypiyqiyriysiytjjumfzvIS 5qmQB1lAIo8yr2v-yc IofIogIoiIojIokIolIomIonIoow",
   "8yw90w94w9Aw9G 3sVCZPM1pO07QyHU6tYOegoyjoDkWXkWYkWZkWakWbkWckWdrRh ALvJp0WTzX5aX5bX5cX5dX5eX5f",
   "X5gX5hX5iX5jX5rX5sX5tX5uX5vX5ww1d 7+67+97+FEK4OljQVlgc5jmYmJtmc- 6xi6xj6xn6xo6xp6xra3va3za47a4",
   "DlzIotKrNcs6W AiwMZ5MZ9MZDMZJMZPRtUUy3qdrtaS+Aq 2sE4E76LoPX7PzvSP1vG0vG2vG4vG8vLT 2T755yRImskS",
   "stgx4lx4ox4px4rx4sx4tx4u 8-7DgDLE1m9n J52SqfvnU 30J41N41P41R41V9CnCu+NuCXeescAscB+sM 6ZsL67lDo",
   "lDplDqlDtlDulDvrN9sfq CM3CMECMICMMH4tHGOHY8KbOM1jQ4ccUrkBYu5EvXm 7E5e5Omg0tEa 3BV5nC74WGbde0hg",
   "lDkZFmayn5xqe6uQiulr+Cv-w7-wL 2j8bwI LRf+bW 3y47wpG8QseXxys 3iQBPsCkfGllbTFkkqyZv 5EvKLxPK3Ttx",
   "uYr BCZMNGbEQu+q 5feLk0MrVcHwdrte9dpxBv1z 8HlJ1JTdUVKLVZblxMmL7pVhx0A 6UD8b1CinpxxrWIt1q 9plBx",
   "CU1XUKgUKhUKjUKkUKmUKoUKqUKrUKsUKtUKuUKvUKwUKxUKyUKzUK+UL1ZfEar0pZyphtpi5qaU 2gI78M8lUA-eEn9Um",
   "Mc94fvks48 Ffw 2VpAtfFY+hJPo0lpUg+6g EBjNoHQumwtz 5LXI8PNbEftjnlynlznl+nl-nm0oO6xJPxv5 9K1Ap5A",
   "pDeoIk0nn1an1i 2sJPLOQyJjDi 1yi6TKBxKKPjNriXwdk13 21I2Dy2Dz2D+2D-2E02E12E22E32E42E52ED2EE2EF2E",
   "G2EH2EIEUzHfsHftO4PdQfhNdlSSrM8w7l lgusb3 0HT5CW5Ca5CeW7Mthg-JI 04N8aGN5yrPVsM-sN0sN1sN2sN3sN4",
   "sN5sN6sN7sN8sNGsNHsNIsNJsNKsNL 0g39UNOyjZbVfDAf+JqpGveRw9p 8cZL7jZbeqV8 DPxZDFgt-qDQvbr+s9 BgB",
   "FJDW8hZN9gW2gW3gW4gW5gW6gW7gW8gW9gWAgWBgWJgWKgWLgWMgWNgWOgrgkYukcT 18Z4Ri6on8i48ryBa8IZ1JfGNks",
   "ZcbdEM DSrGT6+3c 8OjK3LUxLZu+dISdp9eMXfCtuVuvo4 1i61+bLd7PnSUf5Uf6Uf7Uf8Uf9UfAhX0jHTpRL 8bHBtb",
   "X2hb06wkP FYLWgtbQYdjd-7Q 5XPH2dSVWi01i02iFp 4cf9DYZKB 7M57MHJmWNKXVD7jOwtTr+Wp 1xA74ABCAG4dIn",
   "YK7L Da2GeZWEqqZpsHPxI3 4WHZu2aOnw5ww60+ls 8vRAWoI7UIAkW4WfpWvMT PcV 4nc77sAXpKqRLiySEN+2q 5Vy",
   "DWuc50dXieIkiOpq6Pwh6 6N9JA+KNENcrP4MhYuiuNoxC+2n+2o+2q+2s+2w EH0LAwV1PbvxolGuwf ACKAaiJ7Iou6t",
   "6A+B2 OB3SRnusgx4K 1MxHUQsGisGtsGuzeN 0pO2Bn8UeCxKHiIj3ixQ8 9vnuHIw0X Nw9NwTbXleNflkTsFl JKBQs",
   "YTZtYg+ZMPjAotoZuvouvwuw6 3PlArpXCpeSnzwc 0f4GL4I15KexT36fz2gaHgaXpof 00E8QuDhddij AjbUr2w8w E",
   "x4Ex8ExCcH2cpfjSykJq 9UVAVMmpR 8G6G-uTo7o7Qosl 5tfEc+Ed2Ed6SFySfPY8qmPU-Fn 9UrHhbXg1+W1+W9 Mxg",
   "MxrMxvMxzPTfWGxafTscizjF I-RI-SI-TI-UVFnnzZuzE 6r1Nf1YZBasrhnK 7KcisR 28VB4nB4tB4zB51TPBdBWxo1",
   " 78V78W78X9SuIVCNrV 3gAC2-L-TNOsS35WDunmxplm 2iB8PYlkK KtfM5LVhVVhbnbexHZxHa 3OcA07G99Lrvbfwwm",
   "Eys3 0LvVVGVVOWzObv+r93 IVLVBCixVp0g EotEoxEo-Ep5EpBR9llQdmxg+qs EmPUg7 1J1+El CF-EBkKKGZaed9q",
   "dA0 R4oYZtbUNlu3n0on0sn0yn12oAEq4Yta6taC 3EW3g15Wo6f1aYja+deCB FDdLQOV7QoyC 41l5Kf9Dc9DgMUJMUP",
   "pLY+rN 11kJDVMeOOjuhjLmDE Af+GrvHv8Q2ITfCd2IdJNlIO A80C8cJodeiN-ha AsiFo7FoBFoFKSxsRy 2HI8B9JF",
   "OV05Vs4VsCYZxnFI 9ekCYJMeuRQoXl+g0NiT0m3Hm3Sm3Wm3awm1yKU 8CIRD+dzpniBpaZxkZ FLXHkkQVxa2TagT IY",
   "-J-7R5dppvv8VxOi CmU-FA 8LG9b3AAoUdDUlwgdFmGk-w5 E0BE1zMRBfO+ 7-uFHOWhT+0u 0P40P80PClsIqN6 BZR",
   "L3hMLLd9Bgeooctocxoc- EAGK5nMuvci-nGwyHLyHRyHX JZTdcqkOQnYz 9I2LRRllIoeP  Sc8WDqgqRlGxne4puY 3",
   "IjDC0GFVHUeJxmOYayqn RXZRXhRXtRfHpey-b1 2Vv6IBK92MCceKm-N3 NxnPZ6ZU2 V12iqzxta XnVxHpzSC-Z8-xM",
   " 8eO8eP8eR8eT8eXNj-hQXj1Z TprcoFfv1 GzGGzKGzOKm7MxLW+0evkevoevszbe 5Pc5sXDQFPLEWKOqd7rqj LHpkn",
   "Zqjm 05k2px2p-BPNEFNFEaNeqUoHWJQXlLiGvrMsuKh cthyvf GtrUx2Z3t 4l18bC9T5ERlHPne3GqQbry+ IU1qr6v",
   "F7vFBvFFvFLvFRxdg B6qZNQa4Ji5pyf7 J45PCRW02ZyRl9LqIhuql BoFISrIUMOBRWFnpk4 EK8FzDN+tO69UAXr14r",
   "zD+W2 FiUJKbYNouIW 7D8PCbPCdPCfPCjeoAkXxpht GEEio-nXOnnjvGd 16qESTFT-FU7JK7XXHXXSXXWXXapnz EA3",
   "EA4EueVi3VwCkBIu9Y-68 6FEDYIRMRRO3 2YsLq0zEl 7CF8Cg8LuBl2QMzSt2fRWt-H Or1RB5TnLZ9ciqGj2blVEtbE",
   " B4xBpkEcGWb1Wb4X9+hTLhTMhTNhTOhTPhTQhTRhTShTThTUuafxrt 0vK3xm7JdAyQCCtGW2HNGXS1tdl 0dmEo1FGqK",
   "XzOckXm0Xm4Xm8aogqlSrxHyg3 3nMMuFdBhl+E 4KRMM2T+vVcOVcPVcQVcRVcSVcTVcUVcVVcWVcXlm8+n0 53jNB8NB",
   "GQqiS1zn+7 mwp 0PD7SGkdz JlRJlSJlTJlUJlVJlWJlXJlYJlZJlaXKia7zbn3ebY BKBa1j-RB 4sYfu+m3w TjTaCb",
   "jgtmYYtxbty8uYu 7uU7uV7uW7uX7uY7uZ7ua7ub7uc7ud8HADeyJLCSHfg8ngwZteAvdHymrzzt-TV O1XUoecXxhO-wZ",
   "3 1TZ90kDVWQx9SQ6nPDnPHnPLnPRsD3xgM 03Q1-P2LIGRXcnee59wApwFEy1Xy1Yy1Zy1ay1by1cy1dy1ey1fy1gyx7 ",
   "1n8o6wpuDtzJvzC 1c-9bODilPmCQNkQNoQNsR9kSL6b6DixjkyeoKCoKEoKGoKK 6MN8-S 2mU5rMPeCkVrlyPmAamAbm",
   "AcmAdmAemAfmAgmAhmAimAjt6e 5E1WSEg04mgVyLA 7n+8guCTQI7EL3KLy+gN3mOfseI 7t594cKESkanoTYxGw 3k6E",
   "joHSRKdxWrSaJdaJeaJfaJgaJhaJiaJjaJkaJlaJmkUeqi9rpBtfJ EbyIfiKAgRuNRuhiWvs6Ht+WwT2 34H89hE07E-p",
   "I8zIWErWRzDv goLs1AyJ5 A+hA+lA+pEFoLRyOSgOShOSiOSjOSkOSlOSmOSnOSoOSpaJ8n+6z5zz5+z5- 8eOCiejSSo",
   "AgoAhoAi 0+L1XI1XM1XQ1XW1Xc2ji6VfQXlSvIcbYyEv 84eGdcMwHW2Rk-tmbjoGQ 0q8CbjCbkCblCbmCbnCboCbpCb",
   "qCbrCbsS1gbzYhVyi4wkwq 4AXKrXQSrQSzQT9X7hcJkcJl DGDE9OHT6SHkSHySI3SI5wHY 4mf 0km0kn0ko0kp0kq0k",
   "r0ks0kt0ku0kvVvPfYp 46XQSoXswdMvq8huOrvOp 9zdB5EB82YXy 1UhM52SKYXXodPbdPfdPjdPpdPvfRx 5sLGrbwh",
   "I DpwJD-JE0JE2JE4JE8X5IXEbXEm 5oo5os5p25p6NOFRKs 6F8LAfLgBRYtRY- 2fY5a3GiqNM2OewmFkq2nzgX+N2 1",
   "13JPiK20NrwPD6jTUpVu 1wq1wy1x21x8CAcDPcTuLlSovzYvzhx-7+xx 9olFJ9H6+HXYmVhnb9wGL CcAT2jflI 0z8G",
   "YJHZaZb2cwTirwis8isFisHkMpoPms3ts3-s4B-0C 5y16ZIAT-YeW+aw BisTONTOOTOPTOQTORTOSTOTTOUTOVTOWTOX",
   "TOYTOZTOaTObTOcTOdTOeTOfTOgTOhTOiTOjTOkTOlTOmbpRxeJ 8tqDfSDheJpyOOgm1iqMwr1Pr6E 92rVTdVzbdSVfN",
   "JgCwgD2gD8gDE 12s9Tu9ruZJDfGtgAih6iq8+ HxQIsZPOvPyUPyVQI5QIJaxIaxS FYmfFNkWd 9udD7iIodULzUM5UM",
   "HfgLh1b i6ui73i77i7BkM9 fv3 XgBnsa+1g-WG-WK-WO-WU-Wa 1U81WR1WpDzQMdfX15ej-nl+svF-EK 4hHClDD-dL",
   "6ofa-xIU-0N 3iAQW2Qw8 26YGL1MPQhAhiVUs2ys2zs2+s2-s30s31s32s33s34s35 6e36eB76oOstVvug3ojyyjyzjy",
   "+jy-jz0k0PwoD 3nz8kq8kyV7abyoi29uIM 5fsGlIV+ZlbU 34SIPFgB-gC0gC1gC2gC3gC4gC5gC6gC7gC8qRcrJ1rJ5",
   "rJF 15k2Pk4Un4Uo4Up4Uq4UrH05Y60Y61Y62Y63aLPt8b 89XWNJfackZHm+LnBSq4Q-Bq AOzHhcRKGsF5-44 CBDUL2",
   "UL3UL4UL5UL6UL7UL8UL9ULAULBaUVjuOkwTzAu 2J9751MF4MF5MF6TnJXU9an4 7F3EpFNirXrsaJDh0bjLSwfOwfb 8",
   "XTNj1URdWDt 2QeAOmIU5IU6IU7IU8IU9IUAIUBIUCIUDIUEZ3KwfP+j5 2f3AO8AO9GYyP1DUOqUOujFWvC1vST 1xHaX",
   "4xjb 35iXSJm6ysZltEazHj 6d86d96dA6dB6dC6dD6dE6dF6dG6dHNCNcTXfhdjREsiB+XC DLpTh+azLazPazTlhqmpe",
   "pWTtIxxTm HbwNV1Vhweo8kusx34 9i6YjAoQwtGWtGetGqudywmBwmCwmDwmEwmFwmGwmHwmIwmJwmKy4a FU0XaHYxVa",
   "+UfFw 3O93OA fJ3pCl 5I+EJjFe-MmdVkwkvEkvFkvGkvHkvIkvJkvKkvLkvMkvN+nM 18nRNrUmH MVlqYg+Al EQjHY",
   "MSLmY6NaSchuPmR4rNyxwk 3OU3OcAqkGGKKIHPgnSO5YexZ2HZ2IZ2JZ2KZ2LZ2MZ2NZ2OZ2PZ2QpdO+qa B3EHWvWJpj",
   "xIqrO T9jXxFb00b01b02b03b04b05b06b07b08b09b0Ab0Bb0Cb0Db0Eb0Fb0Gb0Hb0Ib0Jb0Kb0Lb0Mb0Nb0Ob0Pla5 ",
   "3xCQ6xYeeYv3laZw7d DNeHmRMYyNBKNBLNBMNBNNBONBPNBQNBRNBSNBTXQ1baez-Q 6tOC8yJdAlv2rwDzFp+y2 ydU-",
   "-f 1S35QK98O98P98Q98R98cATrIDFIeCi48i4Ci4Gi4Mi4SrS1 BKNBKOBKPBKQBKRBKSBKTBKUBKVBKWDv1Ms1RvUjvp",
   "o8Twb- 5L1McQbUObUPg31gC3 DwtJyALXF HzYHzcHzgJOVR7ljOnlQHqcSwxvxJQxdl Hj1a-8cHWsUs PdSTpcTpdTp",
   "fTphTplieok56 0TyRnm EWCIjUUMsV6LVmGkWokWpkWqkWrkWskWtkWukWvkWwqi6 1gV2uf2ulHonQQZZyrb1FgcU NT",
   "kSwOihT-bV N-DR7cWh2lH2 XWxqIlxoQ 5YO8NLEsSZCxpDDtN1 75CIwma8Mjds iwlnXsqnd ClPQhIRVJTy+Uv6V3o",
   "i6soLM 2if8dpelev3bwdF DAYDxKYv0d-Z 3IW7C-uRAy8Y 5xS74rYc6 FV7awxbgTv6E 9UqA8nA8rA95gOgsUTxL+ ",
   "aTXpIR-xz 74F8zBFh7R4OY4Wg+lj2+kWrq79 41nGkSQ4F+Hw C62C6QDNiDavJwRq9TuXi 2GsJkNRML V7oX1oYJwfE"]

/-- Part 3 of the rows of prints. -/
def printLinesC : List String :=
  ["GhAQpfb+K2 FVmjZdjZejZfjZgjZhjZijZjjZkjZljZmjZnjZojZpjZqjZrjZsjZtjZujZvjZwjZxjZyjZzjZ+jZ-ja0j-",
   "WlkDrmI 0D80ea0eb0ec0ed0ee0ef0eg0eh0eiKe2Ze4meHo38p7D CbbfjBpJu CiwJGrgHh 3I+eAcqncqndqneqnfqn",
   "gqnhqniqnjqnkqnl 2LeMnQNnLtRCtcl 91jG8njRWjgz VaNnYDypC 9wxGi+NNLSlIewfewgewhewiewjewkewlewmew",
   "newolu1t0Zv-8xLb M9ANG+SVAXSsmyLwLbyBJzor 8H5FwRKDmpTi JnSTBzlPN EcLRAhT3iT3jT3kT3lT3mT3nT3oT3",
   "pT3qT3reBVeBbg2apYFu0a 03DYLWofbvR3yZH 34ZR7RZWBlh+uYVvpz-mQ WQmatSpv2rS3uAExAZ HClHCmHCnHCoHC",
   "pHCqHCrHCsHCtHCuHDxOY-Oa+PZYZo7qCGsllwj2 1sQ5KGMeTP3jWmArWyvvgvvkvvqvvwwHR JwgQrhsVmunO 9S3FeN",
   "P8+kyls5Jvrd 3fb5Lo5Lp5Lq5Lr5Ls5Lt5Lu5Lv5Lw5Lx5QpHj-PpJeLdhaNjSktde D8OIWwNzORg6fDstJk 3cgDM3D",
   "-2N+4XP5Y7eb-6cw9mXRto6wPUzrU 0sF52V6tmGS8OvKv5Nv5Rv5Vv5bvUrvUsvUtvUuvUvvUwvUxvUyvUzvU+ AK6Fy2",
   "SUMX5Rf4MuuH 8XfCb8QfVQfZQfdW2vsmi bEphaCma0-zZ LNGM8NPnhSQ+YBdcW+ck7jEYjdujdvjdwjdxjdyjdzjd+j",
   "d-je0je1 GdPOXgQcuS6WZET 46K5eAMiWMiaMieMikMiq 1+-A+MU0WrKu Lw5McUNGARYXXmxXmyXmzXm+Xm-Xn0Xn1X",
   "n2Xn3Xn4btybu8ytrzkj 4mSGu6L8fk6qwXU+Db 0Xb1VK1oY38M4MnU7vbyVl3El7n 5NB9LaAbGL8iO+9jGkwrC CS0C",
   "S8LnCLv+Lv-Lw0Lw1Lw2Lw3Lw4Lw5Lw6Lw7VVndmzt+FuvV BvkTZFu3Txa-yre CdPSwRjQRk1buQQvTr 8JyUPL 8t6B",
   "9EamUj2Yx8O DiwJQ+PQ4dQ8xxR 2DT4MK5AxUsNiZTkOS+PJ 0qc3MFgLti+A FYNKTXL+oTuLigioJ9ys3 9D-QwNejE",
   "r8lszEyFp 5DCAr6FuQIacUIiYamkavm2Hoh+xdu 5hMOfZeDkxk3zjv LKeLSuaIHaY4gNkqaEtni 1ABDJAKSOYXJit0",
   "rUV--d 2A84f9KBQpGuw88wanyuO+cm 0iN9XcIAqXNpc4whnE 1DdW-AZaUjxRrGZvVevVfvVgvVhvVivVjvVkvVlvVm+",
   "VM 5KDEw5X99aithr7t-5 8FAJjHJjIJjJJjKJjLJjMQnsmrmw9IxIW E3xgqAi3Dnj9zck 9VE9VYBYJFbsWxFjegjehj",
   "eijejjekjelwJ+xn- 3hrZRKcIk 5U15U2HHpL8DR39Y9wfQUrFp DTEPXxdt8nln 3U5gf1hAqx8u AEmAEnAEoE3XE3d",
   "K5LMfMMhfMhnqbh bxynHboP2pWlu37yoO OxxbuqzS2 +Nq+Nr 0Lv7gWOqf 2QS5FWP6LqIosT4 1ADNr+Ns2NsMoOjq",
   "+I 16GKbaLY2QrdQwQiMco17oWuvL0 1th5EUGowZMArB0+Ue NdAOf1coKgnxgn-go2go3go9-GQ 2HPKewO8KRifSQhn",
   "n7nnF 1xM2X84kB8YWKG1KG5KG9KGFKGLRn-WkNaA7 6aA6aB78kGX5M2CQMCShgxyN sZ9 2JzFqlSEnSq6aHS-Z9 EWz",
   "MJIZupt5-wjE 0PW4ZC57rE5cMHHh2zieDox4oxE 6Xo7NpAlQzsk 2VP4MoCGZCGaCGcCGeCGfCGgCGiCGjCGkCGlCGmC",
   "GoCGpCGqCGrCGsCGuCGvCGxCGyHihPF9Z2DdJLiWvqeNqeXrW6wHM 5Pi8nIBy8Lo4Uns 08cAawArlEPXEPYLH1USQdfv",
   " 10i4t27D47D87DC7DICJcIGrSAkeuCgc3hPzpFIsaX 4chCVFMZAlLJm2RnIVnYXniuph6 6wfBNlISFOPf-rN 8weki3",
   "rb5r-dtkCuyz FBLMk0NC6Pr6VtIb76dYI 0oM5UnH4zQTFZUxaqDdIVj72lrVmXB MBMMhLQjWe3Pjv- Et-H3EYr6a2N",
   "lJMlVAlVElVIlVOm1qz4j J28 2+NBDNM-sOFRZtytq9uFsvJfvJgvJhvJi 2xI8EUGydIP8K-tMnkqlw ApdENzLSLXI7",
   "XIBXIFXILXIRse9 JiESr7hQRtH8 7qJCVjYGOa9zjSjjSkjSl KWr 9XdXTRc8BdCdiuXmclu+Uu+k+HM ElELAtMk5Mk",
   "DMkPSCTcxwqkgrlE 1FM1FQ1FU1Fa1FgSONVpcXbnXboYCDZ0BeDregYpdIpdMpdQpdWpdc 7HABfJTzKbUC 6UmJWvbRR",
   "rNt-MM 0mX5LbJhmjUVjUljgOmgGtiNwba 80ZLkrYKvZtrh3Ludb+PV F6zGiJmu5nNKndRu7iy8U+4h+gy TfdUqeeAZ",
   "t94tXDuMfvEjvti 3nO 8EDJy6mqvtGJ 9uDBo+DkubNFdErdEsqxd G2fSrIjAEjARs39 i0u MDPOxJPNCTFNicUwog ",
   "1tjkIKpF2+UW CU0JDsJDtJDuJDvJDwJDxJDyUn1hGkoU6yvtyvxyv-yw5ywB Gd7Gd8Gd9GdAGdBGdCLxmNV9b2Lk84mg",
   "X 7lPNKvRP8noyqOm 5RbH+CO+CTQ8TQATQCfeNlIUnWBwCz qeTu8s 21y5wA8ccKw9x9+ AdqE20LtrN0rPU5VJDecUj",
   "2woWwoW+oX2oX8oXEucPyeU 8ZLEHSHMMHZEHZFHZHHZIPK4Vn0nZVnqenr0 mejtqj 24M5BjBPgFGsRsZRsjUN4dzD W",
   "DpkhilWMomTomUomVomWomXomYomZomaombyxT+CR-Mb 5iD5iE5iF5iH5iI5iJ5iK5iLQWSXHGXHe 1rsKwjMJUOPeQKL",
   "Sqm+YD JqcY9qmYMpB1 2OkB4bUqVauMcvVcvWcvXcvYcvZcvacvbcvccvdcvefPyj7skUypUTqMWqMaqMeqMk 8Tw8T+8",
   "U2XuhgOlqF-tsb 0XdR2DuA9uey+uP 1qS2nA2nE2nI2nO2nU4oFC1-a6fgKehOq 9jgElaR2YR2ZR2aR2bR2cR2dR2eR2",
   "fR2gR2hSvWTaWgfXhqbr46r4Er4Mr4Q AnDF42LcPSzYhn2plZ ZSYiUplJbtW8 6YbAp+BmJFa0VXtvAgwj- FBbFBcFB",
   "dFBeFBfFBgFBhFBiFBjFBkUots2Z++J 79E7p48fl8fm8fp8fr8fyGmha9Z L1XSsXTRfa6kfWvhvx SFFWfBb06fdYkst",
   "p40 3Ke3Kf3Kg3Kh3Ki3Kj3KkCN0avBci6kkpk-pt67 EIcV7RWvmeb7fWUkEgl42+9j 8B0TmBUhJZIii2OjAwo2j 7pz",
   "GqrK5OKoEN2cNbwVUtcbCg9ghLi 62nBpZgg+ghEghIlVsti0 BeEO-8hw+i7zt4Uu3R 6KKAG1FSfFscLtJTMkYc9Z45 ",
   "LT1SsBVDi 1UlQ7YQ7gQ7msvou4D Go4HG0Y2aj-- 3onLHvVlam69ygf 1Ax88N93h93-O4BSVfj8bk4YkoplPqlPulPy",
   "+By JxB 0tLCMAJ05JdYMjOMjSTx2bktbw6bw8jQjtgT 4uHFY9IW4JmwLqVu-TzCk 2v96xyKz+u-p+cW 2Pm9q+NJFQT",
   "0SetTkvm1duJ6 O5kZc3d2Iodf+3O BHqF8II0GRi1b+qmSvnLzo6JsRxsgSuIv 6bxBcPMqONhwNh+Ni2Ni8NiEmjl 0f",
   "M1yN6TeA4QHwSMIaQ0hSB6YzTfZKlZSuNc 3b5EQpRdnx02 8snCX4OoSrcHuwo 3IyMCcdgliGNmr9qDYsVsu64 78uOh",
   "uTiNeXsp6Q 0NqEVuOB7Xw9 4PMALsHj9Pd-dbRgynwbKymy+Dc BcmU5zVK2ZWF dHOlXv 4374HdLNFWTPWybZfjt2wv",
   "SUvlG Md+TSXe0J NfIOgNYp9mHvmR8xXp 4zEUPDhNVs9ytFM 9bWOyGb0tmw9zbl PG+QT1 5zr76zBoLSz+Wp0bNCe9",
   "6e9Ee9Ke9QfZL 8-wBjABjEBjIOiPOyWxXe 6dUAvtBG+BH6BHICYHN5NT3AUuQXToaXNaYkaYofMekBa+NQ 9V0KmPXOF",
   "gcstSmuVHxG8xGI JA8LEpX-EkGZwW8 DgUFBQcD+jxZjxf 33+895H4pOVrOVsOVtOVuOVvOVwQp-t04ueZ JobbHjd7J",
   "gc5q4RypU K6kRx8XxnqP5vvI 6fFOt3OvgUhDf+GtFk 0sGUL6VzPjlLvHd--7 1Du4OTHXqHX+eDUqbErBKtJUwqu El",
   "bfUVlg3owu 25QIeIVD4eithqahsthtFvkYvkZvkbvkcvkdvkfxQOxmpyRe AyiRLsdrkx7Ayay IzxSMXhj3 Dh1IQQRB",
   "NSHMSHUdOJimmjN9oFeoLWqtO-jv aQ9 4Wi6FKfN4h2ljWnrYpxj6 9U0FR+VVgomRwvr Bu6ElvJkAXWCdV7puu 2OXk",
   "g3rImxfT 3+h8Jt9ESG0PJAEWF0vjTvqx 4edGwHHQFIK6IvcNPwX8HZTnelX ANOIqLLfFpLpx45z1b Co5jjxjk7jk8j",
   "kJkvclXA 2iF9yjKaiTB9WxEY61Y62Y63Y64Y65Y66Y67Y69Y6AY6BY6CY6DY6FY6HY6IY6JY6LY6Pung MGpZk2cNzxNc",
   "y79y7Dy7Hy7Ny7Ty7X 9oI9oMmGJ 7foIeYZ2OZgl 2kt9QhYrObT5iwjpu3 VNrWPXioQirNirYircirglWftS5 EfaW1",
   "Huic UaWWhZeW5rwZsWbvZl 7F77FD7Vd7cc7vC7vMImpP-8Q2GSOISOMSOQSOWX3mbAcicK G69GvLSElXcxo4O LN4YG",
   "jmPfofQ 5waX26 8+hLCpRtHujz 2bhWswWv7cDRmndqotv-R Yfch-xyY0 Ni4iIKogKwO2 BTURTCbvcnMr+T- QMUYE",
   "OgUx 3VM5HPC-NOURQ6GWGUdWRhm+poGxr8 r44zUvz-S 7W37W9ly1 EVXEVbFXpHgoMGSSwIWKtWnKWyFYHXYHbYHfYH",
   "lYHrh9Bh9Fm0E 4YK4YL4YM4YN4YP4YT4YW4YYL84c5Fe98 5OO8-HLCkLClWgPaSFnj5tD7zJf-CZ 0Qf23WCuGWDXa54",
   "aOGfNwquO 2ea2ee2eo8PI8PK8PM8PN8PQ8PS8PT8PU8PV8PW8PX8PY8PZ8Pa8Pb8Pg9ytJeGOFMjOCpVD 9cgArDArJVp",
   "9eoqo8gtUPwOV X76Y9sbm- DCTOE7POcU6qb4ibhqbhubhyfYIgv7lu0mt6yLG 9mcRY0Xj0 0Fq8PiEsJuea 3AHMJvM",
   "axNXePw2VlN 31j31n6-27xhKlphJGmOWsThz5P 0XS6twE-zKtdQSwVuSqXDzNj 1O22daCRXYw6emSpTj 6+TE35Mykc",
   "8tkoWx3k 0tH2LbFhoJWHJWeV3jY-VqgJqgVyoD 19VN7YTNM 0Lb4qK5eCPG7WSWg71g77hWiv9u+DC 1+09tj9tk9tl9",
   "tm9tnZuK icJj2CpxIx04 5rl72vbzizvv 9YODjUQfEsLBy0m+cQ 0tg1lg1lk1lq1lw4Ti5pX7oaNLmP0Bu7quoR 7Lp",
   "HLeLp6NbfPzxgNwo8Kxfo  DRYOAtZSggUEim-sA1 0UP8Ag 9+pBWtOXFPWpWZ1kUtpBdpJdqiXrCHuZexYA 3fP9A7kN",
   "OwGG 2GjaPZilojPtpIZ 82OAdKUY5UY6UY8UYAUYEW39 5inFlZG3dehch50jB7lLUpPN BAsNo8Wx3 2KO51w9O3ImKh",
   "zX 1TKCBoeMzreMutAwgWxys FceK3dpyGqlm 1ml5+26lO8LSQ85UsKbrBccdhYf 6-u AA3BWXBWbBWfFlmJuDN6CZF-",
   "gqchzOjWbjWnonzw71x3A 4nkDlQIGBinClUD BtvE0QaN2aN4dW7uZhy+j 05mjihk6sl6pofQ du+inax6T 4PDG0pm4",
   "0wCJ 42578RCRGHGQZLD 16RGnBOJSc8Tim6l6Il6Ml6QqbzrumvoP L+ePyqSbHw7L Hw1UBEcj0iMn ArQB1Gff1t9kv",
   "yn+83 2ZMACNBM8Ta- IegWQEadtczvczzc+1c+7 634CQ+ETgU3dVDjVP1acRgO5qHhschyK8-Gc CC4CC8CCCCCIJLPS",
   "QyVVekWnxmV 2F+Cp2N6OQvUZ4Vae4gEFyzI I7FOjoaeThympzCviNwC7 0Yt0Yx83aJ16Ql4vOV 4X+4b24b64bABUWL",
   "+lf-VnMoprZqkHqkLqkPqkV nUD 0Yo8GvHGEHIzNpVVDNcJLmx- FKnlJYqUIqUUuk5uk9ukDukJukPz9P E6RS-Ofzdh",
   "31xgrzcx 2c32zu390IJl 12y13013413A13GX4CaLOex4qPB fXUh-cit8itCitGitMitS 5uzG7LT0NT0bT0hYdlZn4c",
   "Cz  B0KMdGN0RTyNW6FbU9jNNo96oQuoudy4q QmWQmXQmYWtSa-tdQaxOo 5V3E8eHD1LQrQ0aiekieviezif1ooOooPs",
   "e+tVK 18I6xy6y36y46y86yD6yH6yI6yK7phBh0FFqPsvSFSUNQZnKcsd 2ua2zwAmJBaoEAdLfiPGPPHFXv+ZOtkAGn-9",
   "+vf 4G9LSyPt2Vig 2jCE9dIeXKyfOT-gbeyUf 8JGDF3DqEFEigGCib1ib9ibLjl4qPBxB4 Mr8MvvNWDeko 9GEBH9Hz",
   "MQKtx82 ATTZu6dj6rM0 45uDXiWk4fT+f+kp2PuEVztv PG1UVEbuRnKNotxyW4-kC ODzr+E 0ba2l9G53eu-kPksej ",
   "IYIKt7QwGdBSm3I DQBHi0NV3QsESpVconpEm+qa 9tUIHnT3UktM 4dT5645h8IeQKAeYn9Z7K 90AA6NF3JGCwNioOp0",
   "RKVV5YxhP QlvjQnl36qrM EiuH1Vz+a 3Xt3Xx3X-3Y5A6SD0oRMOk2HsLZzDN FTYRM4 0Wy7l+BEpLO+P14SDzerGzc",
   "5 avDbVBbVFbVJjfKvJE 0Fp68EGbfxuQ 3cb9uQGewLOHOFPfC8lMR GIOOwya4Shyd 0TL5DSGZucymgitm9iqx9 9AL",
   "UfcbRJh+R IaJN3FSOgbtwzul 3XsEa3PhDcT8dRdhVxq29x8y 3JrHKTLgQLgWPG1PvIPvPPvSPvTPvUPvbPvdwOYygL ",
   "4QY9ArHH7NFkPaMhuhoKyr2Y BsvWbFffgfpgrQE LULPxbQKGRQhUGJ 6bcZgz 0PG0Uz9rBBlLDjXOJZP38WM2Zkukrk",
   " 7ofCiE BO6EARMx6QZWZC-eYen30 5ZOG9Er0evso 0uD1sSKAnb13gPZjjQo2Qq2lqY1 L8wL9CVYybT6-nw L49S0lV",
   "tCbmToB6yPd DNMEanSy8SyCSyISyOVc4faBr-Vw9H 8JqM4wSa1hSP BhpJjyfZss1JtL+ PvvULSULTULVULXULbje5 ",
   "SHqfRAg8YySt HtGYR0fefzX5 2b-P8NU0YcjOdR8hMIn2Et-2 EY0vgO UHbXLdeubiqfoAOyiC 9Fh ABqY83fPufPyf",
   "Q0t-q 3OD61KAJTZ+Gcou 0rX0rYHqfIQePm5akzfpJjZTugYz4T 95Lf7h C3PYksZ7nZXuemoyWqzIN bd1jRBzcr 28",
   "34iu6ocDPgDjhPzbUm-WJdW-BW-CW-GW-HW-Oa4GfntgHRiVBvzHyXyzUM 3qS59-6Y99EpNDNUm8auJ RYfkvfkvhkvnm",
   "eKm-ozt0-gX JfeRmhZ59bHUbZhwik 5sFGAKGgUL8RpEJucNv5l+4T+qo EjlUJQqVswhQ 94khWA 8JuHVYL6NLFjQQD",
   "b0ysnp 1A62SJ2SK2SL2SM2SO2SP6sd9HHEpHFkJVIvfgfgH6vXM 4oa69vC3D 38vLreSJpV4kbQYty5yoz 18x1+227v",
   "UZ8UZCUZGUZMUZSY+qcFSpU-pV7pVJqxjrJ9 9iRDOLLKQoYCwbqzvu BTrNcFUudZGVwAA B05BseM7fXjFaqmezrfZku",
   "w2 N7tUKGVZmb7PbNib+8c9rde2flfnZKnZNnZOnZTnZXxM4 0ZrP5pu7m+7h AS+AT4EUC--h 74kB00CgIKYDnXQ BGw",
   "EibRWzRn5caQ+8l IfN EWzPewhhsrfC-nt 8MXTTJbX+bgQbgTbgZfDitd2-QH 9l0Fw8PrTPrZPrgPrie1O+nP HjDki",
   "Psh2 MbJMxnbNoeHbevthi3oJuufD 4cxB6ZE6QEVqIqoMl+ftFkTIpZ0 1JV43FOF4 2Gi9Lg9Lh9Li9Lj9Lk9Ll9Lm9L",
   "n9Lo9Lp9Lq9Lr9Ls9Lt9Lu9Lv9Lw9Lx9Ly9Lz9L+9L-9M09M19M29M3IU4IUCIUOLuFQXSgRm 1Pg4rK69S69TBbPjJur3",
   "CrGP OoEWigczAfFh 27Z27e27j27mO1v 4if4il60p6d7O38c0RoAowIW NiYWbwWc2WcEXlGYsZf5Ous-vu7 0qU48W6",
   "fM8hWApaBxDL1GfEriLHsGdsYa 7oIB75Vo+Vo-Vp0Vp1Vp2Vp3Vp4Vp5Vp6wmA 5gR7FyFd7IJ7gRNp0AtTm 3qMH5IKX",
   "iKkzUmzY3Vag6fHxi3m 4yrF+9TNuTNyTO0TO6TOCWUKZpNbRBgPui2any6 Jy0Jy1Jy2Jy3Jy4Jy5Jy6Jy7Jy8Jy9aPNk",
   "vDuN4 29n6e0Ca4EWLpjdsdS 0D20D60DA8u0As4PpcigNp5g AzBF8sKNjKdVUYi 2ZO2ZS2ZW2Zc2Zi853FUZFUaFUbF",
   "UcFUdFUeFUfFUgFUhFUiFUjFUkFUlFUmFUnFUoFUpFUqFUrFUsFUtFUuFUvFUwFUxFUyUkzZ2KfbyyjF MZQOaAVlsoq0z",
   "13zb4 1Jr3kgJtEX8hhIe 8mQCRreaQkITv1V 3XeEUDSrtaPw KlUckIeV8eVCeVGeVMeVS+ZV MHQNzEQ2pvp5yvT-fF",
   " 0yB36h38J6qn6quFYpQtzWxLfM3jH9yfG AlnB7dBKMfO-gtoqQ7-3I 4TC5VZ6hbJ2bXv-ZugcC-eUr 3bALj6elWn2W",
   "wzowzwwzyw+2 22I2wS7Fy+tB-TP HSbQSYV4IjQiqsFr-TyA- 9PzM76PSCYZVfeFlvOmeAokPw8A ZJ8bBZcRSiAsmWo",
   "nO9xO-y6xy6yy6zy6+y6-y70y71y72y73 FMwpcaugjzoS-CY 8r-AOfDxGTJdgLXiMhjKdmK2 Db1DbFEfvHm-S3Wl51l",
   "5Aw16xs+zp5zp9zpDzpJzpP PKcSnhSo1WVkmFzmF+mF-mG0mG1mG2mG3mG4mG5mG6oG+ 4jGdlVgxlnxVoUhrGprGz 1A",
   "q24J3xrN-HfN9wbGxkJzrz 1kQ5w2GuSPhAQneRh9Zd6 4u4DTtaP0aP1aP2aP3aP4aP5aP6aP7aP8aP9cEoeLyyBJ DVv",
   "QjARuYnEa 7oSDwvEIgmjyrtL FXFJOyJOzhCt 1ciBY1EZAKpoOY3f00ru+ DQUG1bLsoLsuMl4QDbcQMdXNrIg Ad4Cl",
   "Bg0O+x9-92 3Yz7Y0DL5PvaUNEnCvwZe VGUiVPxp6zg8 4Ae7B6BogEKWF53 0uE81eNSlU9RZc3l3jytG 98kfuogv3i",
   "HX DHeNfqo3quJh 2Fm5QD888QSoTyoY8Ojoqr1Hzpg-D7 2rQ2sBB9SCr5GTTIIUs7hyz4 8P+U1rvmNzrr-T7 4vM67q",
   "F6TYMxiSytgItgNtgRtgUtgatgf-Hw AQGDZPGd-fAKw+Q 6RXS7hZJwfSni6j+5B 1HN6s4IAuPM6RaD-vR 1HcVOVWbn",
   "asna-8gnnr00rOmu5jykgzyh 1jS2Y-Q85TuqVoJqaX CN0EJ7Oj5Oj9OjDOjJih+ioXkmakmbkmckmdkmekmfkmgkmhkm",
   "iq8Gq8Hqg9 3DV6KF6mGItpSpSmspoSl 0tfBb8VxXa7Fm6btKX 3l+5kUHSQMMKdKPkjdxST 0Tw5o+C-WTYChTzwS+x6",
   "u HpedCsvru 26u8ttDxqIAQXG8lrfv60v63v64v66v67v6Av6Bv6Ev6G LBgd0+ 9ZtFoCMmXQG7gPouXMuXNuXdw5G E",
   "oeOPIz0w GIrLPBThziaNjpklXims-vkW-0P 1Dp7iyM-j+dU F4-HrZ 6upSnGdbjn9zrpH+qu 8f-8hfAbSFV0PHlZJf",
   "ZJgZJiZJjZJlZJmZJnZJoZJpZJqZJrZJsZJuZJvZJwZJxZJyZJzZJ-ZK0ZK2jtZ B8mCbwVQegpO 7rQHHuMu7S1BVNOXe",
   "jaM+bVHuXK-5u 0R+0y-2-q5l383aAAcGMvbJK 0Tg2zz38iY0ceg2mbOwo4-Hp 8Sh8Si8Sj8SktYb 2Rb7qWEKfH2UQA",
   "iQAjQAkQAlQAmQAnQAoQApXXbgHNguWkHgt2T 5D5DaOPS3qOLqOMvCT D8mF6uUSvpRA 5pUBLZYji KoGlu9luH 3TA6",
   "zU7Dh9DxCWQDlPWt1gIUofOrLLyVr 5LvWtDW-xdZv 7cxJRtOfAc36ksEoDF 2ed2el50T9dHZBgcUI AzNCxoEPNWdWY",
   "X9co4uUd+Rl DqoKjGUH3l1G 0AT4xoB5FCHDUzpYnfZphaLtaLxaL-hIbxiQ NYyPa8kEFrtC 1Qx7SaFa-QUhaJXgpBn",
   "13yme 6iX6iY6iZ6ia6ib6ic6id6ie6if6ig9AvOc0WV6WVAWVEgfmkLbqLMqLSsue 1ZKAZtMTeOWt 4S35ja6+-AGZCJ",
   "QCSDGSZP-yR4AR84tlQymwzSe 743De5OehSa0cVJcjrj-9shuwrawrbwrcwrdwrewrfwrgwrhwriwrj 3-2LCWOd6Z15r",
   "63rbCt-cxX+yX6yX7yX8yX9yXAyXByXCyXDyXE BmRCfwCfxGPyQ4cm+wpfB O0ZQLGdFEdFFgsU+yX 6Ft9u+FThKBWKX",
   "9gnBk+dk+ek+fk+gk+hk+ik+jk+kk+lk+m 5JX8Pje+fmg9qm+ 5KWKQuMUkUAPrSa ROIUCeWhVk-p+wX Bk4QZ9VCoZ7",
   "gZ7hZ7iZ7jZ7kZ7lZ7mZ7nZ7oZ7pbaSecx 9QQJuosqH-Y- WyDc4ugkcvx5w3J Hf2LL+OLoUiGXEld4FhZrmJoww-zum",
   " 3oYMuANGjNGkNGlNGmNGnNGoNGpNGqNGrNGsn3In3Mn3Qswd 0vlEBb KvnKvoKvpKvqKvrKvsKvtKvuKvvKvwKw2Kw3K",
   "w4Kw5Kw6Kw7LVvV6YZU8ejuhhFnqg 5dfe+7fuakASqT8 3ZIBPmBPnBPoBPpBPqBPrBPsBPtBPuBPvDsYL7iSpigHMhYX",
   "zgp HLhMVuP42kIMpgf+zd 30O5+B5+H5+L92q92r92s92t92u92v92w92x92y92z93593693793893993ACWTH1TIZ3Jk",
   "ZM+VOtndlPhmds-3-Ev Ig3T4IjYq-Yp-Yq-Yr-Ys-Yt-Yu-Yv-Yw-Yx-Yy EyrfOiqJ0 2J78vq9tXFQcGXCZn7yqoyso",
   "zBtzBuzBvzBwzBxzByzBzzB+zB-zC0zC8zC9zCAzCBzCCzCD 6F09DoC1QM42Q4Au6+z1I 0TaY3AY3Ej95phsphtphuph",
   "vphwphxphyphzph+ph-tIg RoTrNOrNPwatwauwavwawwaxwaywazwa+wa-wb0wb1wb2wb3wb4wb5wb6wb7wb8wb9wbAwb",
   "BwbCwbDwbEwbFwbG 09Y0Fq0Fu0Fy0G20G82hR97nHzXRXhTPncmscmv-lk 34j5y6G8GHoZJQiNXWZIiZImZIqZIwkEv ",
   "3m1LG3dqvdqwdqxdqydqzdq+dq-dr0dr1dr2 OLGWHn  Y0qcI8 J-4QeiRzyRzzRz+Rz-R+0R+1R+2R+3R+4R+5TewwSF",
   " CvZPU5n98x4G HeaH+SMQAor7or8 7ZJMW-ijy 8BaDfnKYqedrftMq8R 5GW7caDd8F3LHhcOecSgzSh1Sh5ShBShHV+",
   "ocTL 159DOEGCHNjxQ5zbNYiiU Ag6ERST4FW6ykzMmo6 tcJ 1mB8JRC2jLB3SYOvTo 4vGDhMHReYeBkpRxQy+SM+p5 ",
   "E1ZRD8jfjjfnjfzuLDvS9zJj-Cf TIQdBOf+viN6q-hrER 4z34z74zB4zH4zNMIFcEch2UlPr bL5g4cofhrfyssC-Kf ",
   "BWaL0CXtgtOi 2V+92W92gT7Leukv66v6Av6Ev6Kv6Q+Fc J0qOvTPu6lB2r0q RidbeCd5BmIO-2v 2lS6ph9FgE6LEbO",
   "fwrwTmwTuwUH 0C62j0H-3UBKYZoYZxgmwmkamyJnx2 DNQMjJUKFUKGUKHUKIUKJUKKUKLUKMUKNUKOUKWUKXUKYUKZUK",
   "aUKbZ72nsH CcrNfMYaZaRKiqRoI8 JRXJRYJRZJRaJRbJRcJRdJReJRfNqPU3rbv6 VqmdcujfAjfBjfCjfDxHQ 4jw5O",
   "lITIITJITKITLITMITNITOITPITQITRITZITaITbITcITdITeMhUSqGSqKSqOX-vfQKuIGwuvxwcz3I 4K15zMFNHJHGj6",
   "0qIuwGe-Nm-Nq-Nw-O0 7aZ7aa7ab7ac7ad7ae7af7ag7ah7aiB7oHvFQ+MdvDf96fKuqLVwm5 e-Oic0ic4ic5ic7ic9i",
   "cBicDicIxcg 6cL6cM6cN6cO6cP6cQ6cR6cS6cT6cU6cc6cd6ce6cf6cg6ch9O2Vkn 3WK7QJ7QNRX4dM1spvvDOxjcxjd",
   "xjexjfxjgxjhxjixjjxjkxjl F1gHBbKF9PbPbZ6jNhwcT-pp 28I7iN9gI9gM9gQ9gW9gcsP7wlOwlPwlQwlRwlSwlTwl",
   "UwlVwlWwlXwlfwlgwlhwliwljwlkx4zzlUzlW-VA 8eNTIJV5uXHVkrmsDUtfN 0sGEXhKuKM-8NNxSh1Vh2Yl-jAVrY7t",
   "7dwV2x9W 9IXAgDhHzklWp82pOxw2EzpLzpPzpTzpZzpf-gq LTtLxZNrbkuRkuSkuTkuUkuVkuWkuXkuYkuZkuakuikuj",
   "kukkulkumkun IWlhoQmn8nn5uey WHAZ9FmUK Xo6YuZnINnyOnySnyWnycnyirIb Q4eZ1UZ1VZ1WZ1XZ1YZ1ZZ1aZ1b",
   "Z1cZ1dZ1lZ1mZ1nZ1oZ1pZ1qZt0cL-oaG 4N36foQ1zTsGVxTYaeaTGcyGiAxkQIkQUmRZnVvo9w AOHDdBUuJewopK2pK",
   "4pK6pKApblq6t AXnN1cQ1D 6kkAQ3B6VFOEpt0v6swor+MW 2FZK4kTAwWJwYM7sEzsF1sF5sFBsFH OMHRbAT3dUyHWX",
   "5WnOfTGpQHpQcq2R BAfCcsa7UmEi CjRElwLHSM+3YSlYSsef7 7vA8DZF77I+ndbheY0 1tR3gkQ75R31W9hn9t 0lv7",
   "EvENXENbENfENlgj8t9X gQik04oi0sMOxZv 0Gp5Zd8by8c08c48cA8cGD9hV4+aUKd3GdGsh3VkIRqHr-gZ Md1OigpS",
   "l 3lfAEpfCMuxjve0 ND+YkVe7MkM4mVfvRgyl7 8S5HB9RJNSqod8Khlgxi5 3uE3uG3uI3uMH0kHm2JxYLnhjuJjuNju",
   "RjuXqNysfdsfrsfxwu8 FpDMxdPJZZeWayzd8vd91d9Dl9Oz-K BN1aeieCygtOu-bz-i GQeV8vZS9iA5ryEttMxuD I1",
   "5Rkr 8NDFs0RgISy9gzfhQYzV+ OnlPf4QXbb15b19b1Db1Jb1Pdu0e8GfHQrXjsiH 9inHD1HTPHTXHTjhZ-rZczQkzQl",
   "zQnzQozQpzQqzQrzQs+8t--M 16l1k754YFtuJCQJCUJCYJCeJCkMJnqdr AXvOCCpf7-2u PAISuMUbpVzqVzuVzyV+2V",
   "+8Z9LdcRleQm8MoYV 5cSEz+JxISOqc92cS7nZmnZnnZonZpnZrnZtnZv 1fK40xQQpRT+WYtoF- 51l6OE6OF6OJ6OK7R",
   "NLIIcDsdoAiNO DJBDJFDJJDJPDJVTOZTOdTOjTOpc+ctw8vlV 3vcBC7EIHH9RPZDSehbiqbisbitbiubivbiwbixbiym",
   "43 8ZeYoFzmu 5MBLz7Q2XRxDUr0rCuvoH 1SE1SI1SM1SS1SY7tE7tI7tM7tR7tS7tY7ta7tc9JkAZKYb2aEKjuY EXyP",
   "rsPrvPrwPrxPryPrzPr+Pr-W1aa0mdH-iJ1tlXv6x 3yvpBI CDhG4GRSscCXrbHrbLrbNrbPrbVrbbyU2 4hXPJjY1fp4",
   "SrW3rW9vvS 3u05yj5ynBCCBCDD+vD+wD+zD+-D-0D-2F5LLKhzDS 7gBBaJCdoUY3W6NfYd 05q4DJAkzSgYTMqTU+che",
   "chuci3ci8iS1iS9 XfMbOmfnb 27y27z27+27-280281282284285FIUG8FePwnfEuvs EAfSrWVqee7GuKrvK4-p4 80B",
   "TtNTtRTtVTtbTthuNg AJhD3jDh2PtuUN7m-IsG-sH0sH1sH2sH3sH5sH6sH7sH8 8kAMhhQ1WfZninsivMwCg 1sv73p8",
   "HPP-XQfSUzliVPmRCxVN 9h39hNFd8P3OQ+UYeAdvnwLE+Sk P9tXifgQ2gQ3gQ4gQ5gQ6gQ7gQ8gQAgQBnumsDB+uv PP",
   "FPuoPuu+fC-lH 6rno0Q 69T69X69b69h69nWf4oLXobvylozRwzS0-Ew Ci5UZ5UZ6UZ7UZ8UZ9UZAUZBUZCUZDUZEglH",
   "rVXrmDtc7y5x BPtDnbF+3HDnVzSpsktm6 2Hd54sKnVNb2NhIZJuZJyZK0ZK6ZKCwIWwIawIdwIewIkwIq MhAa4-ckqw",
   "lG 7OK8Zz8dFIi8Ii9IiAIiCIiDIiEIiFIiGIiHK7rNZINZQb-Ec7ButF hq2mJNpLd 6e98wY 5s2QttR19RbHWvIhRtm",
   "rHmxSu2w 38H6VGGFElfrqns 32wFjhOJXRiMYy7rGOz3b-ae 0Lo159LmgLmkLmoLmuLm+UXDiDOkxysiFyef++X EqjF",
   "0wduTmYnmYomYpmYqmYrmYsmYtmYumYvxVs CrAGArGAvGA-GB5LbVLwqQMMUAgaupb+BcO0lzwu-O bjkfiG LrIO68SS",
   "JSSNSSTSSZkHa 39zHTxReCfh7he4 3UbSHAVl2WgH WfybLhmEImQ0 2ImAsiAsmAsqAswAt0B1sB1+P57QMajJVtJ0 C",
   "tMOqtQCCWcxpVq-5v-61-6D-ji 0He3Ha52f6+tFO8FvbNLvb74hZZjHlmDTtVU 8oWP7ZXUHZU2+7I Mq0RfbhBvhSH 7",
   "357OB BUyIAwkWNndt CcTRa8p6xp8op8sp8wp90p96sid 4xDFGWFGqUo+UpBUpEUpHVb6apEapF 16zFrCGjPm2MrS- ",
   "DQrGyteTpoe8qgJ+MZ 1mq5tW5wo5wx5wy6MB8badHrdHvdHzdI3dI9hWG+W0 0B3KoWOyI 4k-m5WpKx-nq DrAKJgK-G",
   "VvbaB8bRyfU0j3TqV4zdjzdnzdrzdxze1-hb 5Zi6J39hefz7+8q 7tCKyBN5bv6A 7VLCPnG4gMfQa4uiZ2 A8CMxQQw-",
   "TVdUMuer6lWzuRZ 15i8AxOa+Wj4Xu1fbTy0F-NN 0WD GHKZ0BaBEv+9y3N 79vLkDQzFdEIj7ys1h VfRm9IuHs 3I6G",
   "7xjr7y-D G4NMFVrqCvJywaizuu 3HDKYjMV1 AjOGRjaIffsiheHmS6 02gfHjfv5 NUWOEMQh7ZCNmv8slj EBvEBzEC",
   "1EC7ECDH-AdHFraC 7p3OROUSpVm-ZHdnnXs0VvofxL8 7ikAw-QI6WEPvYJvezyVZ JRlPM4YgrhcEzvJ 5bjMgcMgkMg",
   "oMgyR2kVV5 A35FxaIbsb4feV+pku 6eoYGBfLafLbla6 bvl 6riM43PTmPTqPTuPT+QZaQoUlKZt+Qt+Ry+h HXGUHBW",
   "+KaWBlrJ T4rWS8XU4cXRczx Zzpbgy YlhZDehKAqsXxyY 309B1cQUedSBhY0nCwq8eq92qAYtSytSzyGDz5j 6wo7M3",
   "H-CWTii68jOwzbW KSwOuORd9W+icR0fE-mEf 2ij5LwIqxONIPD6SBFSBJSBNSBTSBZU-XimP 2Lj7NTLEFhc0 FntQTq",
   "lEWp+WxRF FLTId1MoilT0 S6XUhue-6foQsPqyPc 6EVbX6bXEbXQmaz 8sw9y6B+-FnLpVBxui-2J-2K-2M-2N-2O-2P",
   "-2R-2S-2T-2U-2V-2X-2b-2c-2d-2e-2f-2g-2h c4Xir1jMKvqz HwJdkBkiB 0FYAxPBACL6HPg9RFPUX4kGdt5hv8D ",
   "2KhK1zxBExBIxBMxBSxBY 2Ay3S63r9EdjGq7GqFQxxcgVmGK AtdCeiE2kQDMeCCjXVn27 555DpCQY7WcSptdtJ9wRAy",
   "1f cbLlKHlKLlKPlKVlKbmQ6oV2te4 3F+L38e2tue1 4VQFGmGr1JGpTzyVFkyxC 1yF4c2BSmD6bJDLSSeSSygF6mdL ",
   "CIYI3bIwuVy2dYhfYAtp6 0YtF71QR-RXahYajdhlG4-5F LkqOGefD-v+l 4A-8TVEnDEnLEnNEnOEnQEnTEnUXCucQNd",
   "WBiglvQQybM HgBIHJgF8h9uh9+ 9F7LS+fBl 4cmBAQP8pyCI 19g6ngBDlN2P  sXRzlL-xq C5rPbyRMuUNOW4JzBV ",
   "FqVYdYarAiQ7s4a BUeEZtGZ7GqjNiqydL-3f 5FMErSfXdq3o FwlHx9IWRRjOTzcpZusTgvuZzASzED 12P4m17+EFJ7",
   "L70OlY 9gBJBhkqA 7VnN+WlyLtT8vLVyS- 2DZ6fc7vvGmKJjXKe4QeMRrVYyYocn Fy4QgERmHRmJRmeRmqS8zVRjZqZ",
   "dvOe7jjUeqjqzPo H-9Ne9ZjFZjGZjHZjIZjJZjKZjLZjMZjNZjOZjPZjQZjRZjSZjTZjUZjVZjWZjXZjYZjZZjaZjbZjc",
   "ZjdZjebPAeG4hW+qiM 1xYP4oQZKag5dH4vpkwoX 3X3AzOFmZKcseb9lJ2 FvgJ99TsPil+-E7 LCBNK0eaTkx+sbl Jc",
   "pJcxJd7Jd9JdBKfQQkmXdgkxa FL+IGjbxb AWZiuryS5 5bKAApJtOZ6Oamqbildbvdc1dcDffsutp 0Zs3O47ls9cLPc",
   "kQzdZ4dx42 g48jR2js+uK4yhhyvn 9hnELzJCdYJTYJUYJVYJWnKi 6ugRkyfFxkG3rP8sB+skGv5Sxuv 7D283CNDgPn",
   "uhXP B+DHLHPEzoVs 9g-MSXMSZacbacgactuX5-m9 1EmANYFt-PuhRFWRhteb9m1yqGv BMjL+DMRuOLMXgia4oa4vac",
   "Bchxqw4tL8 DzOSi8Si9jOuje6 3KDAbbAbcEyeG9qLKIPMWjC6lO-qNqweGxJHxJL 412OyATnxTo4kavrRc 2tz71oEJ",
   "MIjaODrODySVrpZL 2TP5YSTABgKi+kf 7b9RJkWo4j72o08uA9 4j5Hx8OK2bF5pep CM-uVn 3FM6OoAeUDG1KNoMWBR",
   "hnfVsygB 0dY6OMvq7 1xTCT5ML-TvLynf 81GHcKXPaawHcWFryxyugyvC-V7 8x2AhlVzNjHtyFT 3DsE1SEMoWSBlbB",
   " 0c82qFRwvWgIw98 B3HNE7T0lWZ2cHQos9piT 2Xu3cgGZLIUBJoKWtTYGFYGJYGNYGTYGZcN9hiikPckamoB7pVvqnZ ",
   "92iDKMJX2KbEqlJsbot1hy3B G3ytq5 3CWC24+Xg 9E5Em8O+LcarjrMl+5nsJxb6zhI 2Oz8CV8kPEXwbcHbcIeuElbf",
   "woz+fW 4C-z8B MvsfpBn9Eo30qQ0qQ--lZ 1pXYO2gkUqhHvNSytK 55gBi6JTDO9mS5WT1Hi8Ln3SuMM 2TQ5EIA4yA5",
   "0A54oKn+T+ Hx4Hx5Hx6Hx7Hx8Hx9HxAHxBHxCHxDSn+TVbmXQmXZsNs L72kaNn0NrivyMo 0801PpAiiHAKaXqiV5uvC",
   "v4B Bk9LwQT-zrQJ+1q-A2 64764864964A64B64C64D64E64F64GXa4 58F9AH9AI9AJ9AKb9QsDG 5JNCRKI5zQCpQTx",
   "QT-QU3QU9Yd0cpg-Qh-RE 7znM7NrvmvnKwDAwDBwDCwDDwDEwDFwDGwDHwDIwDJ 7F6CG5Lc2kYZpnzqbarj4yAo CT+J",
   "bTKh9PITifGifpkwoup5v07vSQwEi+8p 5n5KSZQbivvD-Y6 UgGVw1j+UkMDkMEkMFkMGkMHkMIkMJkMKkMLkMMmE-wNN",
   "-NV XMHr4BuOYyZizLs DRWe9Wenzi-PjbXnFGnKxrXM 78A8LR8wEDw6VenZoVuYw 6+2CVYJDCUNcUNdYVGYVHYVIYVJ",
   "YVKYVLYVMYVNYVOYVPlXNwHC N2cPu1W8ljCAwIAwIBwICwIDwIEwIFwIGwIHwIIwIJwIKwILwIMwINwIOwIPwIQwIRwIS",
   "wITwIUwIVwIWwIXwIYwIZwtB+bu 1anGnbQEeSDSXkWZb2dvsmfrpFVwFezPc 7MTCnHI6FWQGkQtvH5 2pJ6teIejMeJM",
   "eKMeLMeMMeNMeOMePMeQMeRMeSZgLZgMZgT 3LDLvxQMAUShlC1rjcwgV 1GD1fc1fg1fm1fs5uALtZOkVhKO GhDTd7g0",
   "M-0d 6fi8TIAnMAnNAnOAnPAnQAnRAnSAnTAnUAnVNpDUk3rP1yY0 UYTVDn 6SwA0cc3ch+WwqF-E1 586Q2OcNKnRavW",
   "Z+wP+wQ+wR+wS+wT+wU+wV+wW+wX+wY BlFLh+UQVV2Z 4HDBeeD7qT-i+9f 4SY6nkG85KHQTDUV6f Ih2PLScxgkxop3",
   "Sp3Tp3Up3Vp3Wp3Xp3Yp3Zp3ap3b+SR 2At5PmCpZFfmhLl I8laBzgD+oIi 63kCO3SEdcqWcqXxer FsMKIfQfOTgidC",
   "VdCWdCXdCYdCZdCadCbdCcdCddCel9UlUMqEMqEOwgP 2g94Ix8YrEv9b9DkcJ 33a6Ho6T2L-vUR3cRpcS3gBE QzaS80",
   "b6yh05xu7 1vl5uyJw7eNQeNmgmZskYvy2 6vZFOnP2NP2VP2hY3JeZVf1zjZktImuilwR9yPp 9yEQaovlHyvMz81+Hr ",
   "1Gt1H71H91HG1HH1HJ45Q 1Mp1Mt1MxIjtuMT Cepai+bl5cBGkZun85usOzQWzQX 50bADZQ+karMarUrQ9rQHrQT-vK ",
   "7kEBQ7Gl-HzUHzoNIONIWT6jepq 5Hg6va8JTF7gLzyWQ9eGPqrEwSV 5lz5wI7Xp7bAC6DtdYyzYztA BanJ6Sj3UpyBs",
   "a9soyznt-fP 9YmQf4SgocNtnqI-cq 0g7h3YknIs+euUt 2Bg3xr3y14thD92EZCN3XaMzgjIiUJs-x 7irCwUTiFTiNT",
   "iZW6dZSEb14b6vgE4 2I38chECLHDSfKNjoW 7cp7ct7cw7cx7cy7cz7c+7c-7d07d17d27d47d57d67d77d87dA7ztSJS",
   "ZjfZjhcqOfHAib-odVoddodpvZP 7IGA-1FPMO7QRm5UMmYR8coah8+iyG 9bLHr3HrTHrVLgRLgXpjfsWZyqt EXPHw-H",
   "x3Hx7P-mXxZeb7j4ioOy 8Ls8wUIgiIgmIgqQKOT5-XHM 4I79DuboygFonkltPdtPntPuuL3vsW 0-17LLYXgYX+mW0nu",
   "uz4Dz6L+rb 2WV8h3cY8law+A- 8hXWplahuppW 1GLWQeiBxlmtw7Ow7Ww7ix4Q 1EX3U5GQiXqencVsy7yeQ 5NB5NC5",
   "ND5NE5NF5NG5NH5NI5NJ7olCMqMQlREKaP3krFtdh-fc FifK4pRoOiWtvNC YdwZvydzxkGRkGZkGlsN3woG J1bMKqaI",
   "5v5cvqm+6v-27 0q762BWkGaltiVe 0O5T1UUA9XbtXbuXbvXbwXbyXb+Xc0XwG B+nRbXYPVYPaYPfYPgYPhYPlch9sWz",
   "uxH++w 0R3BPpFlgO7AQumVRAYV0YVFYVJ EXgZEuZF0vWLx4j Ps7QQaYNB 4pS6aXJujTOYTOcTOgTOmTOsbw+hTxp5s",
   "p6A 1vLUfAlh0lh9pPBuVT 3ds9AkAnSd1ge1S 3yg3ym4W5Ks7ND2StiUpNUpOUpQUpRUpSUpTUpWUpXUpYUpZUpaUpbU",
   "pcUpdUpfUpgUphUpiUpjUpkUplXedXejakD 1D-1+I57j57kAhaAhiAhuJKxNDGRRRZcxfpI DSK-09 9OiVUsVd8bCm 2",
   "ikFhOOr0SQIkFzkG9xmx+qd+ql+qx 3ma5Z1BMSXb9 4ITBt4UqaVOQ-fo-fs-g0-g6-gA K+xK+yK+zK++K+-XQVYTXzx",
   "e 2sNNtcYOxf2Wozgozkozooz+qLLvphvplvppvpvvp- DFIECrEGZI5Sbhv+NF AxoMkTcGRpovpp4pp8ppCzJ3 7uh7u",
   "w7uz97-980981982KgHNsoNtqQaKbb5rSSrSTrSUrsS HniT0nWQgd6jd6nd6rd71vFL 6aEBNkJrB B2EWIvp2NzH3zH4",
   "zH5+R0 B7PUztp9r 7xGDWDRtQetj+N2 0p1JNRRLTRLXRLbWGf 0MVAinTLpZkmnQ7nQ8td0 3oPdIufBriYwvwe 5IbF",
   "OpFOxWcvcDGhv+hy8hySlkb kj+pmv 2ir8aRAR1WUkbZBloEnGYsDH 2IOGUZGdyRRxqqrw4H 5YTBzKK0WNiHQBsVwtZ",
   "5rcdQ+zb NRyNRzdcKhKXlWb 4eE58GGXuN42N46N4AN4GN4MjQsmfh D9lEdrFR4Fb2QsQWRNYHAYTRd69d6Ltgvth1th",
   "Dv+q 4CkDfyDg0Dg4DgAQa1QgsXO2pmFz6d 69UBb0Ek2OEiVykhZKs1Gzjz 5egDvAJMFaLglMxuSf 31X3k15ORcG5em",
   "Ggyehpyhq4hqGrGp 7Ea90PC9df7lf7mf7nf7of7pf7qf7rf7svktvkuvkvvkwvkxvkyvkzvk+vk-w6r 3QZC2ZTi3UwYb",
   "09ifMifQifUisZwrmwrnwrowrpwrqwrrwrswrtwru 05IPH+QzHZW5ZW6qx7slNtt0wDqxVR-iu 0eV8tY9bOVI6Vy-Vz3",
   "Vz7VzJf6klHq 40FF05goAi3cjtvjtwjtxjtyjtzjt+jt-ju0ju1ju2lvSv5e 0Wf2epAVgAVsKHiP9CTwqgiEk+ok+pk+",
   "qk+rk+sk+tk+uk+vk+wk+xo4TpVBpVFpVJpVPpVV GZDGZHGZLNPeQiuXYLbssdegeJmgV0i03ilglEyugD 9AlB3JB3NB",
   "3RB3XB3dB9oK5pK63K65K6EK6FK6JUnKb-Ui+MnMMtBcz2W 9-TKBkKBlKBnKBpKBtTdMY0yY0zY0+mFPsKp Pn5Pn6Pn7",
   "Pn8Pn9PnAPnBPnCPnDPnEPnFPnGPnHPnIPnJPnKPnLPnMPnNPnOPnPPnQPnRPnSPnTPnUZ7rZ7sZ7tZ7uZ7vZ7wZ7xZ7yZ",
   "7zZ7+aCa bo0xpo 8mTDWaTGJTGNTGRaoQaokm+9 Dc4E7oESDLzaQvwUX9eouptAx7N GlZNGuNGvNGwNGxNGyNGzNG+N",
   "G-NH0NH1RnHRnLRnPRnVRnbimB HlLKIDhKahKehKnhKo 1EdRxqaFHbKcfbrhBPsQ9 EkbIfKdRE BPxBPyBPzBP+BP-B",
   "Q0BQ1BQ2BQ3BQ4BZ4BmnFwKFwOFwSFwYFwei+U 8RCDbvH5NVThoF4vj2xPTz30 6iY7uNAH5D4WD4qLyainSx3o-dR Fm",
   "MLhiMVHMVLMVRMVXl+T-Ep-Y+-Y--Z0-Z1-Z2 Eo9ULVULWULXULYULZULaVapfvVkEjyaFz7T AKFBAEHq6JckJi4NOKQ",
   "EwTZ4UluWFXYxRe7w 62PDciHjne1Ejp-oZqp8u HHAOlLbVdbVebVgbVibVmiS8lxD BRuLdDLdELdGLdQmjMqp+ 7lnO",
   "pHOpPOpbXqbbKzfOZjqVjqdlz2o2Jwdc 1llIfyKg0SQ7lSunGvxL4xLAzVa G1HH-ULAZP-QS8lShLiSjl25uFx 1JM4-",
   "-McqNK4aSFasPxuq 2Od8wk9HdGraULJbqi 0TH9dbMvQQmiQrweO5jl4ruwtGA+sg+zS 8hXMuZWUWWUaWUeWUkWUqpnf",
   " 6yqHlRPfqUdIf1Wf1cm1ty1y 0ZJDdCRgKa0Zg7Bg7Cg7DmWKtphz6o 5cPCYFS6Ymg+m-8+17 3Px9g1KdZKddKdhKdn",
   "KdtOI4xXL 5OlBRnBqjD8VIOdUQIW1UaAwavfavnavt HXKUAuVMPor3wJi 6xuLbWP-mfsfh5gh+Ds3qs3ss3us3yt76w",
   "Vb 7Xb8mc8mg8mk8mq8mwJIc+uN 1HUOJzT5HcJn 2NhDfrFj8L8bQZWYOCeUVeUaeUbeUceUfeUheUleUoeUsihQ 9kZL",
   "rYgCegCigCmgCsgCygD0nlJnp-uHmuckuclucmucnucoucpucqucr+SN 0aA75z7sB9RLMcBQRthp7qTarQbz+5 CT4NyF",
   "NyGNybNyfNygW3LcrW DnFS65odjza1ztc 48+BZmRu-afHafPafbhdnnKPqjHsc9udZ A43BfABnYSKqfZev1Ax3jxF9 ",
   "0c3EkJXUZbD1i3frTz 1QV1mh3m4IMdJHPMhWgG4+GV DKhbBlbBzvuSwKC+uH 2IhMSgN+6ReFTihXAMZxFcC9jkGql6v",
   "DO NT2ajf BfNG56LBWQBWR46b8Tk+zmGdq7JzLk-eJ 0pc7Tp8ZZjCMp1Kq+d 2w16L77DRGtYeu9qtJ MQjMphPCpVVe",
   "dkrhkbjiJkUEoHvxDg 1cJEfpQIlSqwdlEp-Q DTrDU3DU9OQNTkDVOlxMU 5+n9fEHvdHvjN-VT1CYnJkoqofrqum-Yk ",
   "JbILMkLMoLMsLMyNuBUgqUg+WEnYwGtomx+I ERoqZlrJrzzT-sQ 5HXRJQV60m1L+qZ AlgHAFWl-jUknjBtEztF5xa4 ",
   "P1khNWhaFzPk 0J8MrpPmjhl7 9-eFEMUIYi1DkGto86pBwq0h 3A-5JS8h89BcDEAi+drHr 9uGGTFH62sju 3ARaiAhG",
   "+xn4 5MX6VVDIBQLVV9PYWVZ6-cH9go1vSLwSj ZoodbJhIckR5oC9q6bq6cq6dq6eq6fq6gq6hqGcqdErj8uKD 4oQCew",
   "NhcY2UZD5bZVc6LgsxhIbjBPlEHyMR 230B08DGRGYcP9qXiYdrwdr+ds2xSn MYzNG2QQCRrv M9zNxrO+6UH6na8tuZ ",
   "5KA6K79q29qACe2LnwO-bTrjTrnTrrTs1U-+e-SkEekUqlyYpH4xeb 5nnLrbMG3OH4QYd 4Do9tVBP5DPvNZSThdXkRxK",
   "W 3Cp7bFANgBtmC4uEEyEE+WmyYVChojpVHuZ7wKD J91 4If5VT9+eK85W0ca4mgQdhnJlFPqCm 9NyFIlFIxGnoLtUS-",
   "dTofYlLoPGq-E 0D-4v0BExus6-WK 7I47OLBdhUxgs5ss5ws5+s64s6Aw3F+7v FN7bVsjxosrLwuIyOU A0XR5oTdQm5",
   "EqM+ DVTYkebYzkC9kC+tuXyya BdyIL1enbtSZtSquQ6uQE NXFNXJVpkdqEg+Oj6nk+ds9hsCAvcj+9q 9owF-qIAzK-",
   "EUPzckDeW1 ezplaAvlAxq0 7j2B82CQ4zzE RzHSwggJ7oIduKhyab 9iyGIwOllQxoSRySf4YQoajGvbG 2eWzqo Bta",
   "EsxFRGQYqqio JGUaCCdBTup3vF2 BzQa5pg9ig9jg9k+Z5 9PABF4HF5NsGQAkh89vS1wG6 49r63LTHGYz-yIH 4FN7P",
   "XQajWrdXG6oS6 1in4xAN0zNQYjjepzb B-JC5GC5UC5aOrRcfQewpqd6vDswTH 8+78+I8+M8+QdMle+IhDQnzJo0MuOQ",
   "wn2xYa+ix 150EjmcledQLl0btdcv4D 17V6goM+3d5ficarImuIM 08M5xj776FsUINkIuGNKEWu1eIIs+H NAhPneZHt",
   "iXTjc3lGBlhdq3N-As 2spJvNW4haKzjDG EowT+wqGq BTKL14Zx6Zx7Zx8Zx9ZxAZxBZxCZxDZxEhK4ngAx+yx-7ygP ",
   "SHTWgWZqgfjS 6i-Dm+GK0XMJnu5wjuwjvwjw-UT 4vvdXJsrP+wf 3hvO48O49O4AO4BO4CO4DO4EO4FO4GO4HRtFVG3v",
   "kP-j8 69NAeFAeJAeNAeTAeZJtwKpZQx1YIbbfabfnhMikOUqyl+cx BPDLVILVMik8m22 QKOSZVjIdtDPzI+ 86yCDBC",
   "DCCDDCDECDFCDGCDHCDICDJCDKCqxGZ7bwDkMznC3y7g BAeC6mNWmODwg7DnRaqxotef 7a3WNrc0unl++KU 3Vi5y5Bf",
   "sQeJXKpkIboxLtUX 0ME0MF0MG2pEM8+NGanmHorcpqjpqopqppqqpquqpQxXHz5f 5BqQYoV9NXX8vEewZ7znS M7WOao",
   "efFxMr 4rbKvKS1TUYHhLvmbt 1qa1qe1qi5iMG3MbiIk3CkT8qOs BCIJyCWQym8dnwVphhy6r-R0 3dr8pNVLUW6Kb6I",
   "cdrgvnhPIhPJ 1a+1b11bC1bETz7Xuj 1-YEGubNleXvuBg RnXc3Y ANeEB7KJaU3FpEQsD3xdWy81 GfiLve 1BA2S3P",
   "WoSgyTFpdU9iHjinNj8NsRksgZ KJhPFFQCbWFjjNitcDwzu 3Nv9qqA33ZRhZvzimUtPlwYf 194hJqhJwqx5 DfreK0r",
   "gE 0dHELeTSGjunqaP Ao0NNiZR0-XN GfrHD9jqVjqX+9Y-Fd 4z2BXgFBNIIAW3Pa1ebbVbt3 H06HiyJ0bJVkUjxcK2",
   "d2NdXTe2x 6pWKpwjshuZbxyt 5MCDzzE-MXzVnGY+Fd 6nyOsRfa6faEfaQiXprjgsdk 5sH7h8M1HNesTerTesczluEM",
   "uEQuEU 4Gk4gdQw8URMlW2lW3wgrwgswguwgwwg++UL+Ye GhxOe4ahm VBhelWh0dhgUoHU To4wBT 4Si5QxCVIOKsTw",
   "uZf6je6ouiouuouy 7Q4W8bXOBcI8cxLxDIzE0 FVtHqQRhNUvqpintqmtquyavzGc+Uh 5eWJ7DMQOOOWXgIZEbZEfZEj",
   "ZEpZEv 1CEGpmKCkc2Oi2CmMU+Oj 0dk9aBBosGjiK59alYcXCeTYhw6logz4Y Cl9XhiZY9ZYHZYTw54 4uSAwBHjTQra",
   "a9e 1urAgQAgUAgYAgeAgkBRoH5-UQxX24hrS+u5 10j5Sr94WRQTrCAsVnw8M 7BwNhCpN3sQa koIxan 9iGAlBCIKCI",
   "NQrzcgccgke8qmRYmiP CEUGtjbWsdK2dKBpeWx85x8F 7SABqFBszGXUJZkJZvJZzJa1iHBqpfsgRuE1 8zf8+39+Sd4+",
   " 13+3T53TCQpfdzVlJ1lJ2tnI-eE NWFQ3KRT5RTARTDoGJ-zI eyiu59 2nw51+9a9FKiHIHjdFxWtxWuxWvxWw A0jBA",
   "qEyuI8UaWgv8Nv8Vv8h 29J8FGCBKCBNFcG 6AH9sQAe3JjlJjpJjtJk3MtmT5lZhrauLn9hrymtTn 3GKDUCRewlfwlfx",
   " AxBE61J44Oqjc7KjHQ AicBi9hBDiw+tGpynN AIlHEoMgbYp-v5f UaxUayUazZozmpZtEwuMLzIu 1tG4FiLBhP3JV5",
   "NXQTbJCha5w4zwgd 03n65-EC3SORVGlVGtdzjqjJu4OvKDzr7 8LZGE8IdnVchg4xwdF BjuEmUFLVISOIj-Ik0JPANy0",
   "hO9oFH 2doLZWVB7i1Mi1N GXUGnGKrHLI2brOd3CfZ7vWu 6q8NWTUHCnx+weZ 6t37XOEQOMtbOPaVWyXkewPp HYwSg",
   "0Sl+XYLjRV 4gfCQBCQFCQJR8-RCFTX5XCF XhM 2K5Jf-MZ8Ps1aOLq9HyvYzgQ 29u29y2A22A88uD8uH8uN8uThkKup",
   "a 1dIFIFFLIN8tT9QVir 2SekVC OrHXYvdP2kS1lFpn+f 4+xgohiyd-n4 3ULGNfIAHJ18Ly1WIsc7zhXV BaCSqotKe",
   "wf6z18z1G 8pMHVsIY3LhtLqac7iejb 3Y+QCXSLgTwIX5gcAShHnj2XsBJ 1j+42rA54BusZOCrPD-IK-jF K1tTD5iq0",
   "n9ynA4nAAnAGnAKshs O6dU3tVAfiRnpDgpDm En2LEjgTfhmR H7kJF9JbcK+rK+xlXxpsIt4S 8Ao8Aq8ArCtaCtcV2g",
   "fJJmCM EPoF-mGjadvWk5ak5k 48Q9NmDhfS13YNtg2Ri+StmX 03QES6XX2m36ztc ITkPS2PS6PSAPSGPSMZNFfPXvw5",
   "wGX 2Yr99ULjdQiYV7cpmjsjN 5GS5GT5GV5GX5GbDPuY-0cWDn88xZ0zo0 E4YE4bVvr 1L+1M61MIDbKDbSHJejLKshu",
   " 0RvQKESEWnfszctzcz 8Ba8otK8JUBsaZPskCwsn GHRGVIQnET4ZZLjey5gNJitIjfkmWLrV1vBRxJF 0fJgqxnVBnVJ",
   "q4Jwrg 6r77EzB-9MCToHArmIxXsyHWyKd CVTH19H1THxgIG+eGQrrswxC 3SD4QUNrFOl2fe4rtBrtFrtPvtV+Wq 5qc",
   "5qg5qk5qq5qwUz+yPM 0w45QlMvXPxyQRnVmVd3vgAWhnKi0Oid0 2xM66sFTUHbyg8LmaWmaXmaY 3Sv4fv5Hy5moCu2N",
   "UmTn7ZI8izcklo+g4 BL1eYz DHcE4-EeZLqfLqhLqjLqnOKaOKeOKkOKqQGQfty 38Q38Y38c38e38kIU5J9LOFZOFdOF",
   "nOFtUf9X2riiapOQ 11411C5jqPg8U9LU9WU9aU9ejr5 7G4AwSGItXH9iIEp77 2E231R9jiAn6MX2Olmbl0 9R6As-VE",
   "pVEtVEzVF3b5egG1rA8-er 1U8IISIIYIIeIIiJGiM-1mZyxxw 2r+6vZXrvn-0sNPwG5 8RsTD8YW0iHliHpiHviH-joB",
   "joJjoV 5jNK+gN2MWwFmNGwCG O3vVS2lYAowPsOH KLvU9rUUWYSfe43fgqgW8lYsnDR-vm 3Ra4LrLnGYW8lRbq3vzjo",
   " 97jQn6kLJnsq 0u19VHXivZhDwqx OgqXzbrAv IIFM6MPruZjXb8Ve2XlDBlDKlDPzGm 6Bn7mhEXMYUU-t--uD NqGi",
   "eiihr-BD BZHCKZOSspOiqbru9j+oA NsaPHYWQbaBzcnklnq 10CMdPitVq12 Ts3j73rROx1c 6xHJ85RfVl67mfUnWD",
   "xr4 B-dHCqUl8UwFYmEbYsozY 70278vAmSBCCM-oM-sM-wZx4eACeAO 06MA84DKJgmV 71B9ZIFJrKXWPkORueeGMgfI",
   " 08g1ZSQYISfhtFs+vV E66M1cTxQfnalrlo7C BvzEk8cCo+Bi 0MA39D39L39XGWZHhq DqyhTBlT6p2YvLq 3wuAAfv",
   "0RzCy 4oUBhlCDBEkSSzHbhPqULsrLt+TuGI 2775Ee5Pn7cl7cp7ctcEieQm 1z-2CoQiAZ18dBbdsRkaWpQipQmpQwpR",
   "0pR4uvsuvwuv+uw4uwAvVh 4bSPp7SXVkQQsEK JZyJitQH9RuFfXVnvDume 4cXBwFDF8FiOOJzQ-UfdOszWszcszhtx8",
   " IoGNrQRmYWJnaEGoSZ QQgo26 2cUGf4a+zpuuqdd GpQgwUs4N 0Jk2LbDVsEhCFThdD4itKonJwd6 PWlPWmPWnPWoP",
   "WptuyvJzzFf GchUpjeIpn6Zwfh 2sf4rv95Bl2ar7BzNk A+uFs3Fs4Fs6Fs8FsC Azph5NjK2msespD 8ZKI-xLZPOAx",
   "OA-OB3S+1V3Gu+yvw6-nK BRjBvhIYBXFMeN7lmfnX+nX-nY0nY1nY2nY3nY4nY5nY6nY7nYFnYGnYHnYInYJnYKtlnzf7"]

/-- Part 4 of the rows of prints. -/
def printLinesD : List String :=
  [" 3bD6Y56yU83+OlhUyadvK A1cOXaPKTTg5a0Ga0Uq3Yvy7 AFOOW7VOGkUO HqaNDQO5WPWQPt6QKabh1bh2bh3bh4bh5",
   "bh6bh7bh8bh9bhAbhIbhJbhKbhLhdxhuqkrsynD TOTkcv-cc e5+e9Ve9Ze9dn+Uz6F FSHGTUYhqwqH+gb HZzL9vW1t",
   "rIJsM-yrk-zk 8GaA3lAoySuRb51l6cwrSyRH 0ZWjIlmIAp9O 2c-CpLLQ5NG-WvTeKqt2i+zs KBELQMWQ9WQFWQLnag",
   " M8v GRbGRfGRjGRpGRvekyel7elBelFxhPytAzeU LNhPL3XjObTL 8JzKZ4KZ8KZCKZOKZSSvdqj6 8jAP1AgnZgnttb",
   "z 7TZBziJsiXXuziB BBXFriOxnOxoOxpVIb JaxVySaTOfBVfpIgCC omc 8iHVqPg5rojDyvZ 0zu4lq4m69mLD4rD4s",
   "LQPUu5XgAaa7gzXmqK 0wC5C3D-iQKec+1gAJ 1IsARMW9FWlj AxrrCauur 1DvBdHBdPBdbFHDHwQMoGNfrX-eal6ehY",
   "hA6vWF+dz 0dVgxbrph m32 CW2FoKdPlmo2 0SJ5wfNPUPy9SuJsI0-w- PfFROsVUUXpJahbbiwd02-xz 3DgKp6Rb5R",
   "bBZeQayelcpnPorKk+uT NeOOAVSyCTjK+6o 6pe8T3C2Y 9nfQsGZe-Zf3Zf9ZfFZkgcGrjkh FCzOXMOhEXbPXbTXbXf",
   "35lrW 1lsOD5Wvaqgm 0jG5zBUa6 ByDJgLP7WjEElOqrNP-fw C3BLnfUReUul+kO 6F9o05zsz ATZAxnOLu 2UDGf5Q",
   "CiROLRmz AHyGfAIfhd5VdR9nAz Faugo7 FqBICMICQICUYlHwM+ U3zkvusLywuYy-yzjT 1I7A9NCbEDq5IkBY0kYYm",
   "hv6h+WxAC jwQw-9 3zZCldRBCdlkdlodlskfQom5sTP 4mV9YbGX+GX-GY0GY1GY2GY3GY4GY5GY6I6xIZuQXWWBtlARq",
   "tYwYg hBwnMn E4ZNKZc3mkHfkHrl84 CDhskyyrd 5GtAy9FGvPbl+18 FW1OTrY1Yf8rhSTilntzStzaudG AO4C6tf2",
   "MoHp FynZJzZu4aaR-gr 21sQRgQRhQRjQRlQRpuRb UVhg2NjTUklNvBVyG7 00s4hzDCSVyjYmYYmgssB 8cwBwSCe5e",
   "yAqSHtNm DqsG2SY7-om5pklqgu+XP-H8 16V2JZ4VfGeFIwWUadfKJgkOlHxq9r 6btKGoUT9YGleLPeLTeLZeLfhrlhr",
   "mhrnhrohrphrqhrrhrshrthruhrvhrwhrxhryhrzhr+hr-hs0hs1hs2hs3hs4hs5hs6hs7hs8ouU IKjYh7YqetUQuWf+9",
   "J 9VYBTMDN6IQikcB 5ei6DtKOjP2UeIugsIl8+rZF c6Ne5nh4+oRr 76C76D76E76F76G76H8HHMwMO0m 0yYMk6aFyf",
   "JMmjAt3o 5lk5ll5lm5ln5loSRxTKTpDdwpI BRqENsOi0TpuXVmXV+XnbeqHxFGxFHxFIxFJxFK 8xf8xpI4UJUmOmZpx",
   "S MX7eSblvX E0DGbIMoOit+lFYoNopKZpKoxNE BnelOKlOLlOMlON GieGxlOjIZE0yt2 IWMPW6UVKX13f1SfPS 4k1",
   "A4SAseCb9DDoDGYFDJJcJJcLJcOJcSJcTJcUJcVJcZJcaNeScYjolQ C2rHjtHjxHj-Hk5HkBOQdZXOZXPZXQh6HwYh 73",
   "DMdMR8Qap9oOMzGdzGezGfzGgzGhzGizGjzGkzGlzGm 317STeXLaawaut4whazET LEcWLYZtccPUlNrsb+ BZVIV3NgS",
   "NgTV+9iPjicptMstvx I8SM7PPHjTQLc2udnQgjanPgnPhnPinPjnPknPlnPmnPnnPonPppnV-Y5 1oC1oDTwgj07 4AUF",
   "leFliFlmFlsFlyFm0NzURW9RWAVA3jFmmoMv-zw01w05w0Bw0Hzh5 29r6XMBpWIBqx+W C4aDQILhebYjbYkbYlbYmbYn",
   "bYobYpbYqbYrbYsp6nrrI 7WAbgndR-gGSpG2 3uh3up3uv3u-3v3DnhciN 1tH8XXb-yzlX 8F2PhmPhnPhoPhpPhqPhr",
   "PhsPhtPhuPhvYH2gIthK0yfT 1yJCpnLIDTNRZ12naOu1ku1ou1s 3jGCtkvjp 3Hy3Hz3H+3H-3I03I13I23I33I46cDd",
   "qWszq DqpDqqDqrDqsDqtDquDqvDqwDqxDqyGJjJbnZsGm5oqIzqnRtSj 3FP9RGDhwEFwKC5chyci8iB0iB4iB8vKE I2",
   "UMR6MRAMREMRKMRQieRiebkjAmGaqrU 8UA9DL9DP9DV9DbFG-H7PehFprw 0z01zs1zt1zu1zv1zw1zx1zy1zz1z+1z-6",
   "kt6ku6kv6kw6kx6ky6kz6k+6k-6l0KI3TxeUSXZWAcd9ezyfZkrrIuObzaJ 4wcITdMAXWMth98ng2 0ZQ0dw7sOAa9AaD",
   "AaHAaNAaTHn6XkNXkTbZCmtdsbxwcM+PF Nnjd+zm8Rs6vs6ws6xs6ys6zs6+s6-s70s71wtwwtxwtywtzwt+wt-wu0wu1",
   "wu2wu3 5ijnjM 1Y61YE1YQKrWVxNVxOVxPVxQVxRVxSVxTVxUVxVVxWVxXVxYVxZVxaVxbVxcVxdVxeVxfVxgVxhVxiVx",
   "jVxkVxlVxm 3cOJW5ybd 0UkS80aW5l0zl0+l0-l10l11l12l13l14l15l16uFw-Ri J2bQJkbsPePpnK1 2G58wgRxTth",
   "Ouka J4HUDmdhNg1flbhm+9tniunsunywO2+lO TWoZA0ZA1ZA2ZA3ZA4ZA5ZA6ZA7ZA8ZA9mqtqmTtwRw9w BPKKQrP-W",
   "UARY3lcY9fG4j5tu70u71-MN PN7T17VWkWAbWusc-Ic-Mc-Qc-Wc-cuXl 4gz571ENpw9V 2Bo4Ul946CZaDwbNJ3NJ4N",
   "J5NJ6NJ7NJ8NJ9NJANJBNJCeXnkoprW4w1A+v4 3DdE8VHB0OP0bM6iG4kJjloc-T2 5Vf9kPKBnLnVUDEnohoIZzIz C7",
   "bEAAMfVd80uZ9 BS6BS7BS8BS9BSABSBBSCBSDBSEBSFRAKYett5D 9op9oq9or9osA-AI6MTPbToDb1Hx1D-5k 7wEEcZ",
   "FHOFHSFHWFHcFHiHsyMxiRWqRWrRWsRWtRWuRWvRWwRWxRWyiGXw8R 0Gr3ubCHOCHSCHYCHeQukiiCrkTrkUrkVrkWrkX",
   "rkY-b9-bA-bB-bC-bD-bE-bF-bG-bH-bI 9ozFKdIV8S4QS4WVPEhifiK6nuPs9z Io7O+TUbI-Gm 3QR3QV3QZ3Qf3QlF",
   "fsFftFfuFfvFfwFfxFfyFfzFf+Ff-VChgjzmaLnEHnELnEP 7H6FBfR9qW8+pkCpkDpkEpkFpkGpkHpkIpkJpkKpkLqMn ",
   "0soAYuLvpc-ogZegz9kCpuj0 Qitpg- 3ov3ow3ox3oy3oz3o+3o-3p03p13p2AwbEjhyHF 1D1GJJK+IXc8dtFdtGdtHd",
   "tIdtJdtKdtLdtMdtNdtOjT3k1ip2D+Dm OloUihYM3a3r-5o 1SC1SG1SK1SQHxIJz2XKxXhwg6hhiXhibhifhilhirmXg",
   "txytxztx+tx-ty0ty1ty2ty3ty4ty5+xK Bj3DDzOAOUJaaHvhpVmQB-EO 0V097LFN8MkVUHJoIFyIzzPW+z- 3B+A8qC",
   "DwCcYI44IroIrrKaPKrkYgctd5 5d9BbLBbOi4-i50i51i52i53i54i55i56i57i58 03c1JlDfYP6-bUmbovkoqq+-q-F",
   "zGO 3W+GB5I-aJLIRD9-WL 2kD4ye6cVFNHSklcJKg5GrFG-kK 0xpA3kBRtCFUJHQJoPJ+dJ+hJ+lJ+rJ+xQ5MWE2WE3W",
   "E4WE5a5ja5k MLYOiHVSQVh7a6mnPR N1TRipUWXiBPx7q IKeRTTeCkkMRlybrHWsLsy3fyzz+Im 7sE7sF7sG7sH7sI7",
   "sJ7sK7sL7sM7sN87g87k87o87u87+9dQM-KNpvR9Qn9p BhPFQVbJobYUd+DhRVmwsuDX 8AvFArT-nfeilGtuKD-sU 1Q",
   "LAXWNAoe0QqB5x-Hx-Ix-Jx-Kx-Lx-Mx-Nx-Ox-Px-QyGjyGnyGryGxyH1yWz 15sAZ6CNpRfoS75Tx3e4vfIrsBU 0+NF",
   "97Z2Sexs GMpLjTPbzZPweqo 9i6bcNm8Km8Lm8Mm8Nm8Om8Pm8Qm8Rm8Sm8Tpac FJAMeXMenN09SEgeR7fOBiJLpmur7",
   "Qy2U 4g8DqaIKBjbY 88J9TMEAHEC-I4sNYzXn2ZPic8nkurtdp+xj 1B1QYIaHNaHOaHPaHQaHRaHSaHTaHUaHVaHWaYp",
   "aYtaYxaZ1aZ7lo3nGp 5pt9BRJFpRb+SaAfGTk1PmVf 3q38dsCi8FwtWCUXuXcrYheSrYd 6K4BbjRW+WIgaVo 4RZ4+E",
   "CyYH9UKdvOQQOQROQSOQTOQUOQVOQWOQXOQYOQZOhsOhwOh+Oi4TW-UjSdjGlKNmZdpQTvqQ-FI 5exGjDTltebzs6gt98",
   "tHB 1V62554NP9K6CCoCGBT7pUKBfIJ 5Zb8+aQkxcx0igVkBNuac 0VACZTCZUCZVCZWCZXCZYCZZCZaCZbCZcEoF+Q1 ",
   "4sKESISa8gFjhK7lDDpSN 93rBMMFz4jfFotgtzGxoL+zF W6-ijf 0iW0iX0iY0iZ0ia0ib0ic0id0ie0if0zy0+A0+G6",
   "zv9eaGVaN5IScxeTvlU7u-J 5hcS2TUOmbXY 00C135zwO 3o5AfQE-2Se0WsidNadNedNiqrZqraqrbqrcqrdqreqrfqr",
   "gqrhqrir6-r73r77r7Dr7J+gz 0vREbUEpoEpwEq0RDnY44ZKBhjGiD4j8MpqKvF1vqf-Az CEMItTLhdky-ojpxnD-Lg-",
   "Li-Ll-Lq-Ls-Lv-Lw-Lx-Ly-M1 CwJHlnIIrM1VSAWUt1gIc 4ayIgBK-zRWORWSRWWRWcRWiRWme+ce+de+ee+fe+ge+h",
   "e+ie+je+ke+l 0QG4yOAC7Qf9XHPjzinRxpq-ygy BgyMnhdBfhZ5 AgKGIyHoxcGVtqS 98oJflT7fT7gT7hT7iT7jT7k",
   "T7lT7mT7nT7od7Nl5au2LwX5ygCzd7 LIrXyFY6lgJ-gNQgNYgNehNBnXYwpvxsL PYZR8uStgTNR 1VhKNMKn7mJGp8wz",
   "Hr 1kDNgKNgLNgMNgNNgONgPNgQNgRNgSNgTNgUNgVNgWNgXNgYNgZNgaNgbNgcNgdNgeNgfNggNghNgiNgj+YE 3A99ZV",
   "AskJ9YNKxNLFQjad5xhQk K3QLY6RcPub2 gSjhyqqeLsgatxmtxu 1B28PoBinHegMwORWaziY 2HXAMyAOrHIpHIqHIr",
   "HIsHItHIuHIvHIwHIxHIyHJ4HJ5HJ6HJ7HJ8HJ9KVoKVpKVqKVsKVwKV+KW0KW5KW6KW7KW8KW9LFLV5mZ5-bkgcFt 72b",
   "BtkFvtFw1Fw4FwEL5kQ2AdG2jubrxh C5nDatGUwN39bZxbpTgV5ty5 HE1MpOe+gnbPnrbyfk+Xu 5Rs5Rt5Ru5Rv5Rw5",
   "Rx5Ry5Rz5R+5R-5S75S85S95SA5SB5SCOJSTDJc2Vn8soBq 8pZBdeKnfKngKnhKniKnjKnkKnlKnmKnnLEePQfk57 Pi+",
   "aDxpIf+JH 2Y9HCsRfmb+en0hrV2vavvawvaxvayvazva+va-vb0vb1vb2vbAvbBvbCvbDvbEvbF M7mnrrpDjsr1-Cm 3",
   "bC3bG3bK3bQ3bW8wh8wiNH+QE-QwyQwzQw+Qw-Qx0Qx1Qx2V3aVPiW+Qs5ls5ps5vs5-w2J+14 BBnBRhDs5FXGIaafDZ ",
   "MpXPG3Q7hWEQcp+jjyjjzjj+jj-jk0jk1jk2jk3jk4jk5jkDjkEjkFjkGjkHjkIkGhs1es1k 2Ci3veAvWH1JbeMpTMvRn",
   " BuGYe3+Al 1-48Vn8Vy8W08W48ZFQmTa3GrBO Qz1Qz5Xs-Xt0Xt1Xt2Xt3Xt4Xt5Xt6Xt7Xt8XtGXtHXtIXtJXtKXtLi",
   "5h 9guHa1Tt1WG0WU3WUHZuynmQ j9d GzWHDOWXn 2Pn98xBhSM02M03M04M05M06M07M08M09M0AM0BM0JM0KM0LM0MM",
   "0NM0OlYEmq7sNt 7ZaIRrIRsIRtIRuIRvIRwIRxIRyIRzIR+YhJciEkvflzssWnvMx 6wNgHA 5ihCHwantan-jSVjSZjS",
   "djSjljnsYqv6wzHxzIB 1CI3F7A95A96A97A98A99A9AA9BA9CA9DA9EA9MA9NA9OA9PA9QA9RNT2 3mQ6au6av6aw6ax6",
   "ay6az6a+6a-6b06b17PHe6gnH0 OvHUQDiEaiyglfztBVzR4 4TL8-hKAPLfhNnjVyXWtightjSdtM5tOAw-txBr+I8+I9",
   "+IA+IB+IC+ID+IE+IF+IG+IH+IP+IQ+IR+IS+IT+IU 0KYS9kU05WdwkAYrW1wjxwjywjzwj+wj-wk0wk1wk2wk3wk4 4g",
   "3FuGJTMKFNKT3QnOZu5w6Y FlHGrtcfWz69 L0lMPbQDfUqwbCYhXDoRBoRCoRDoREoRFoRGoRHoRIoRJoRKoRSoRToRUo",
   "RVoRWoRXs7nt-q KeXba6ks+ks-kt0kt1kt2kt3kt4kt5kt6kt7nXp 3TMSKISKJSKrjTlmn2x+o SozlXUnR5rAOrRHu1",
   "6uxI 1D8IzzPjBcaEcaFcaGcaHcaIcaJcaKcaLcaMcaNcaVcaWcaXcaYcaZcaau5o 9eFZ01Z02Z03Z04Z05Z06Z07Z08Z",
   "09Z0AjkargvugEyTz 4kY4x4H59QWcS34eZ2hOShOWhOglLm 1ME1MI1MM9GJR3MdyOj4DjsIptq+tX 1t568M8he9XQDs",
   "7JpJeYFfXVg1-lgH G0DI1cKTVN94N95N96N97N98N99N9AN9BN9CN9DPKNPKYPKZPKcj51tgQvRB 1QQ8+7BOoLO7Wfke",
   "Jrnwm 9GIXDGdgC K3ULJELnuOMdOh2bwqgici1ui1yi20m24oluz4j BI7BI8BI9BIABIBBICBIDBIEBIFBIGEf4x9A 6",
   "84XxAXxEXxIXxOg2nm79 A5ECLuLMJVWBdm3lP6s8Jy9Wy9ey9jy9u GTqJ7ILszhhS-RA-RB-RC-RD-RE-RF-RG-RH-RI",
   "-RJ 71ZG8GIZ9Z2YbyUrPi Db1 7CzZY9gHJm-mwGw JSSKJ+KK2KK6KKCKKIUyLhn6muepaDpaEpaFpaGpaHpaIpaJpaK",
   "paLpaM 0Qn0hX0hY0hZ0ha0hb0hc0hd0he0hf0hg5ByC74EE5EYdQLbUM7dEVhcqjHRjHSjHTjHUjHVjHWjHXjHYjHZjHa",
   "jHijHjjHkjHljHmjHnjvFnrrriOx5b JpKNAlZmT-zJ NhCWHcaRcaRgaRkaRqg2Bl15qDH--H 5fzdjGdjHdjIdjJdjKd",
   "jLdjMdjNdjOdjPq2Fqqaqqbqqcqqdqqeqqfqqgqqhqqiqqj+l4 Bc0XQUXQVXQWXQXXQYXQZXQaXQbXQcXQdXQlXQmXQnX",
   "QoXQpXQqY2IdQb MLWYUqh3FkXVnnSoRDxyJ AVPBqFM25dnmm4u KzYPAkezdezeezfezgezheziezjezkezlezmpLxra",
   "X-FS 73pGqyL9ELZXLZYLZZLZaLZbLZcLZdLZeLZfLZgLZoLZpLZqLZrLZsLZtMBLZ56qJpt3ZvrywCVwCWwCYwCawCe 6",
   "4kbwVgK3n-op0j 5GU6iL6if6ihCjvIlcKgycdofhzmLsnV+qHI T6gT6hT6iT6jT6kT6lT6mT6nT6oT6p 6gS90f9ia9i",
   "b9ic9id9ie9if9ig9ih9ii9ij9ir9is9it9iu9iv9iwAW9ETjUsBvha 5OIQ3gVhLiLEqO7wDxzlC 0sl0sp0st0sz7ic7",
   "id7ie7if7ig7ih7ii7ij7ik7il7it7iu7iv7iw7ix7iy9qiVO9WfcYKUpI0pON 3Oq6IIHFjHFkHFlHFmHFnHFoHFpHFqH",
   "FrHFsyB0zrdzrezrfzrgzrhzrizrjzrkzrlzrmzruzrvzrwzrxzryzrz+1H+1T+TR 5a0DHJDHKDHLDHMDHNDHODHPFVPI",
   "orOzHx5v 4gOCWMCWNCWOCWPCWQCWRCWSCWTCWUCWVCWWCWXCWYCWZCWaCWbCWcCWdCWeCWfCWgCWhCWiCWjCWkCWlECbP",
   "-GXrQb+iqMcxrfxrgxrhxrixrjxrkxrlxrmxrnxroxrwxrxxryxrzxr+xr-ycp GofP8SRkarbtt8uuOK+fW 5Om5On5Oo",
   "5Op5Oq5Or5Os5Ot5Ou5Ov5eyDv8HouKsNL-KYuWagkn+gn+hn+in+jn+kn+ln+mn+nn+on+pn+xn+yn+zn++n+-n-0ocUw",
   "fLwq+ 2LCU5-XzgepVg3esW9 2Le5GaB4oB4sB4wPxaZ7bf8-l+il+jl+kl+ll+ml+nl+ol+pl+ql+rl+zl++l+-l-0l-1",
   "l-2rC-xbt 2da2db2dc2dd2de2df2dg2dh2di2dj2dk2dl2dm2dn2do2dp2dq2dr2ds2dt2du2dv2dw2dx2dy2dz3scCmz",
   "DRsG6KGCQNnJOzrvXpvXqvXrvXsvXtvXuvXvvXwvXxvXyyZD 1Gb1GpLbkTPmXP8ZFHc7jc7kc7lc7mc7nc7oc7pc7qc7r",
   "c7sc7+c7-c80c81clXl8t 2EE96N9NsAmiAmkAmmAmqM6kM6qM6rM6sM6wM6xj4-qe6sUhwQr 0lR4roE2UE2VE2WE2XE2",
   "YE2ZE2aE2bE2cOPPTI0TI5TWxa7la7ma7na7oa7pa7qa7ra7sa7ta7ua80a81a82a83a84a85atGfuzm02uXd bM4eqbjg",
   "sjgtjgujgvjgwjgxjgyjgzjg+jg-kHHm96osmp5axyW 9BDED3QGmQGnQGoQGpQGqQGrQGsQGtQGuQGvQH1QH2QH3QH4QH",
   "5QH6THXUnMkeOsfL 7PJBJxBK3BKFCyADEOXQsdbOeUxeVJfjogdknRLrHp 2BW2BX2BY2BZ2Ba2Bb2Bc3hZBPhLUjOGoO",
   "GpOGqOGrOGsOGtOGuOGvOGwOGxOH3OH4OH5OH6OH7OH8 0mYXpvXpwXpxXpyXpzXp+Xp-Xq0Xq1Xq2 9vuEPpEPqEPrEPs",
   "EPtEPuEPvEPwEPxEPyEQ4EQ5EQ6EQ7EQ8EQ9LbdOvQOvUOvYXVHfaeiZOj3s 0GK7ca9Z29Z49Z59Z89ZB9ZC9ZF9ZG9ZH",
   "9ZI9ZK9ZL9ZM9ZN9ZO9ZP9ZQ9ZRC4tF20GB6GB7M81UmnbcIrbNywk-Yk-Yl-bx 5Z+5a25a65aC5aK5p1CPrCPsCPtCPu",
   "CPvCPwCPxCPyCPzCP+CQ6CQ7CQ8CQ9CQACQBKqcOgK 664ISwLyyLyzLy+Ly-Lz0Lz1Lz2Lz3Lz4Lz5UGwhKKmVbvcfv+o",
   " 2Ys2Yt2Yu2Yv2Yw2Yx2Yy2Yz2Y+2Y-2Z72Z82Z92ZA2ZB2ZC3AgE2reqpmvAoXs 0Z04KA8JqPLFRe+Rf2Rf6Z7zbGkef",
   "CthTvj1vj5vj8vj9vjF EsdKDESt4qlZwJ6y0v 1Er6ns7a4DWwDX6IEgTlMdzBrAkrAlrAmrAnrAorAprAqrAsrAurAvr",
   "AwrAxrAyrA+rA-rB0rB1rB2rB3rB6tJjvSl 8fRcgzqhlz73+fb 72t7En9yvIpxbR9dqjdqqdqrdqxjs4js8jsBjsCjsI",
   "k57 CNbchnk2zk7ony3zkn JcxJ+lKzUO91Xe1YjChSmjvq 4qhBOOi6srflvEH 4gh5R16ooCWWHICLQNLQOQaLR+6S9P",
   "TEsX-7X-BX-DX-EX-FX-LaD0hF8nJp 1m15NOZ3A B7AOqbVbplMsz3q B7LEyxEy-EzFYjNlKzyBQ G6tM8NM8OM8YMND",
   "MZNQUSQUWQUaQUfQUmVJvXcKhRuo84 9-CMgKMkFUQDVuBVyooOvrOI DKfFe8JmtKDuKxkxm8-M8 NDPZU0diD 9OkAHD",
   "AHHAHLAHRJO1eok AtIGr2PAbZE-l0kqJwzDA 2mR7tvDZRLG-Pudiwdq7prID CPMH7INd3dbve7Hv6h+QG+QO+QU 2f5",
   "4MMI6Di1CnNLnNPnNTnNZtj0vVE-BV CMXEOSe2B 0oMQ-nSMSgUFiSRiil 3iS9dROqUS04WbmXdqaQ4kPboZJoZNoZRo",
   "ZXooMyRe FsjLZ4XFD 4h6MwohTYjMVlr1m9-s-0 U23Um+vht+AJ-F--G0-G1 Q7cciMciQciTciUciaciicxPeAKh2eh",
   "2mh2rh2vvdo 3oc5Dk5E0HkBgi9 AF3Hc1IsNZhEZhFZhGZhHZhIZhJZhKZhLZhMZhNZhVZhWZhXZhYZhZZhaaJ2fc6fc7",
   "fc8fc9fcAfcBfcCfcDfcEfcFfcGfcHfcIfcJfcKfcLfcMfcNfcOfcPfcQfcRfcSfcTfcUfcVvcixLu 1+X7KiBe6FwKJgE",
   "MekV7Vb+deCjkW1n8cpP3pP4q2CrY5sxssxyuHn EetQrPQrTQrWQrXQrdR4SdnDghbgq2vMlwkY 1aD4kO6nnMduXBynq",
   "oxTq 6ZC7opNqHNqINqJNqKNqLNqMNqNNqONqPNqQNqYNqZNqaNqbNqcNqdOS5RJ-RK7RKBRKN 1QV43NAnnOepUz3dY7i",
   "5Ei5QuRMuRWuhX 2PiFDVM-nZBxZQ2b61oNkrjEw4YwFN-2X 0H9DxmFaXNWboXgp5q 2mN311BzKBzLBzMBzNBzOBzPBz",
   "QBzRBzSBzTBzbBzcBzdBzeBzfBzgRwOTGPoiJuCQwi1yG1+wq 6kmSC4SKIVvFatgb3Sb3Wb3abm1g3opiO-rd 16RD-HI",
   "9ewSZ 1fQMhtXKxw8E+9Y 06N06O06P06Q06R06S06T06U06V06W0kBaCmsSO 1JH6n0QmBTXZXnoe0hfoqpSVtGYtGctG",
   "gtGmtVbwNFxcqxcuxcwxcyxd2xd8 WlebnLeq4tyo OUPWExZIalUrud1 DTUDjQPlVaEQdCwdUUjJzl7XnE4vP9 2TpFa",
   "tL6cL6gL6kL6qL6wbLlheejCQm+7tal 0Zk4XtZvdlXAubCwNM 1+UhuJ IRALv4LxrONjRLzYfFiBy APVVCaVYeVYiVY",
   "mVYsXYBcLxmFdp+ExaRxca G90NNwOTJW4kWTSafOafPafQafRafSafTafUafVafWafXafYafZafaafbafcafdafeaffaf",
   "gafhafiafjafkaflafmafnmUEtzN MFAPmeT9Kiu3+2Y+6e 1lZ94qCWWDF7EBoFV0OgQlxn DYKJroJwkMBSvqC+U7 22",
   "yDsfi6QrDfrDprDv 2c28mzOhPYdV 3owILiMbvjAGjfGztx 75c83nKiiROmRnuo1- 0v8SkoWFTWFbWFn+9+-Ru CY0I",
   "kfKCKVGJbCRrDksP1 76bNQtTvjTvkTvmTvoTvsXp9d5Rm16rvx 0K9YiZfHTkiorQ3xtA wpEySV dShexfhw9-dI 1Po",
   "UgImLtqTCqTKqTQuonx7k IAFIAJIANWj8 8XZejFo11 8Ma8szPKsT4iU9Bi41pmL 9jUQ1lQ1pQ1tQ1zQ23UG2nbIoXW",
   " 16W1zM2nT4yDABxBOGHyzhVyoripFWygcygwzft+78-9z 4-XLK4P6lUyseS+ty2 5ihHFaHFbHFcHFdZXqxuC 7ZbDeg",
   "OdziCn-7y 2PPCAbSQ6bIAmpf 02+GkvIW6goQhGyzKCzkG 0po1cu5qZ6tt8LIA8jHthOKUW6OZbzZc5ZcBbk0kTwkTyk",
   "T+kU2lDg 7m4BZsCn0WzkcV+giuoaErqV 9VAAFxC17L-FR7nfs1iiqiiriisiitiiuiiv 8F0EsGNuNXHFYrqcoOp3KqI",
   "nxB7 7UKAOmBUNf7shJap+2q8B 0vaDiVMyYgrvsxD-P2 1D66ykCFBEpOP5lP5tP-bW0Pj8P 2A66r5LhgLhhLhiLhjLh",
   "kLhlLhmLhnLhoLhpLhqLhrLhsLhtLhuLhvLhwLhxLhyLhzLh+Lh-Li0Li1Li2Li3RXRZOveWpfvIggKiC+vooyfO 50aEJ",
   "PP4+mlZqej 9FfI5wO1sioWmQFpIfzJv DEoDF6Jg3Vu5xZU 32f3505oo6jV7DZDGrFicHLJgKP 2-p8xFEjjPjFTReYu",
   "QjJOjJWjJikvClEUorRtYhwS+ CRhOPDZbXb+RdJudYYedgfVC 1Nr5kj E+JGUkIB4Y2wc7Ec7KdOtkBN+CP 4F65i3XS",
   "nnZmuOv 1s54CJEWfPHMrWurX0rXC Wl8eDY+tb W7DW7EW7FW7GW7HW7IW7JW7KW7LW7MfsQfsVfsWfsbfscfsifslfsm",
   "sHE 7QQGUBGU+H2CLbiUzIWKqcXndbvlC5 7wn9J8AXoWmfffxfgFjfIrbS 18lIRWLXSZeiZejZekZelv4h KGGKGHKGI",
   "KGJKGKKGLKGMKGNKGOKGPcm+sak 2ThkX7zCz 52l52p52t52z533Mz5X9s 25EDqIJfCMWYN4ag7nkcDyu6 8PJ8PK8PL",
   "8PM8PN8PO8PP8PQ8PR8PSHVwTk8knAmtMx4Pzti DyzV6jXOiXh2mXY 55t9-2Hy1JABNP7O0wO10tGVzG+ 8gmCzJKIYZ",
   "2KyYMyYNyYOyYPyYQyYRyYSyYTyYUyYV 9kvCDrNYKTHa 261TvYTvcWPM AXpMiQfYjk9FkryppC 5vMKhbQNxQNyQNzQ",
   "N+QO1QO2QO3mhPmhQmhRmhSmhTmhUmhVmhWmhXmhYs-J DNOUzbhhjkHA LjjO3ZT0nwE7wER sEHvqq A7pEX0EX1EX2E",
   "X3EX4EX6W54aqSaqTaqUaqVaqWaqXaqYaqZaqaaqbnFf DM1PF3fCNr5d LFNTEfbTnkNAnJqsNjzoA PMQQnwQnxQnyQn",
   "zQn+Qn-Qo0Qo1Qo2Qo3Qo4Qo5Qo6Qo7Qo8Qo9QoAQoBQoCQoDQoEQoFQoGQoHQoIQoJb50bRp 0Oj2g02g22g62g72g82g",
   "9OzVOzWOzXOzYOzZOzaOzbOzcOzdOzeSJ8UmKXwelr+sdFzdszg9zgX-fw 1rk5dhC82I51LYjayj 2eWCwSYWDYWXmVU ",
   "40d8uLAa9LPhYkJlQqnAssp3sp5sp6sp8spAspBspCt16tEKtfXukew1s 4ss8lnD6YD6ZD6aD6bD6cD6dD6eD6fD6gD6h",
   "GbTLoLNCFzOK HIRQSwZAVk+Oys1 8I48I88IC8II8IO8cY9b1GzKQ0JRHIRYiSHgSHiSHlSHoSHrSHxSH+SjVZdHvlU+j",
   "V-KH VUJaZaauobOhev0gy6gy7gy8gy9gyAkKWnxy 1Fb1Fc1Fd1Fe1Ff1Fg1Fh1Fi1Fj1Fk5eqNrxNryNrzNr+Nr-Ns0N",
   "s1a0hddYlTEuPI 5ZC5ZD5ZE5ZF5ZG5ZH5ZI5ZJ9EIJ-8ZT+cHto2Io7Upctw9H 2reA9JAoJAoRB-PIioSKoZbFi+TkKu",
   "kKvkKwkKxr0Rr9w+kK 8v1BsBCkdGWEP1rX1ydTegFWxeP 5sCAl+MLoSd9VjViMmkJ6moQv6O 2gx8248ewH-WLykR2ub",
   "5ldai G6lRNVhLlnPJ 2aHBFmNedXH-xO8 4XfHNCZoDgeEuigyB7-j1 85UDXKGvzGw1MlcN5KNU7YYlaRzkLfp4P 0M+",
   "Nj6UHYiyc 2upBR4BR8BRCIpZJkCJkDOnCQpbdQNlrNz-p 7R0B5oNocTafTl2bSrmKAtUXvWH 2CNGiPLP7dDShrYvR8w",
   "DY 740gsP 19v9a5OM9dxvjLzzCx 2vOJkFJkJJkNJkTJkZTY6cDUfX4 B5gRMVjn9o4hzlrzlzzm9 43r5I95pUWweXvM",
   "XvNXvOXvPXvQXvRXvSXvTkkBkmt 6Ko9QbATREPJIbzYOqgfUgfcgfimNWmNms2dxoB 0xrOcGQyFS0tWXtWnO 9pcD50O",
   "TveXxjNYnuu DcGOdPYT9md5md7mdBmdDnnJ CTBKpxUofkz+vVV 5Fh5jr5jz7MlClJXUAlxPtC8tCG KU9Q9CUl+b+Vc",
   "1xjGAvew Y+qZjqfRlklspDH+m7 3nJBaLjeYnO5rf8 0uM9YLEQSIf8IfGIfSgGumxh Cd6PONQA+bSXmhfml1nbaxQf ",
   "DaTHUlXkq+09+Zm 4AjKycXnbfOkr1PtaQw5G 29s9mHA4WEkcLmAhM9 BsFOgJwDuxLa 4UCJJVJUPL5zN28O7Af5DnhU",
   "yjN 9h7JdXfy6kEJkEKkELkEMkENkEOkcTkcVkcckcekcfkcnlTXnt9y2G Bx4J5OeDMjfLjfMjfNjfOjfPjfQjfRjfSjf",
   "TjfUjfVjfWjfXjfYjfZjfajfbjfcjfdjfejffjfgjfhjfijfjjfkn+Jyqa-2e 3L+LvMUNiUNjXGUh0m 1Gz2QVIEj 92s",
   "9A5AkIRsITJVUEprl7txRwo6 FDpsc7soB-SA 2oG2oPK8tPZ+ZBeZBkx0z 2Jq2i9BTGIeiLHynrD+Ck AsyHSYWsNdaC",
   "feCkYb DXdGdlT7vglAgx6 5lXQmhh25sOn C3ZF6qNf1oLn 5bbEhUHhQb4lsbwxrfzT4 MG+MVFMq8Mq9UuLsai 4sY9",
   "449arBsMTmKYDbYDfYDjYDpYDvwSf 25A60qbb2la1la5laBlaHvke C7bKEWKjQONiiZ8rFy 51-52352952F7RjJ1GQK",
   "gfNgl7zvp3+fZ 338QQSzd5 7qXAcDJaGQdtSAEVPFWSEWbcjEvqPY b9rvhuxrk 55i55j55l55m55o55r55s7AJAfHHt",
   "+MjJn6voeQ 3GG6wzS1WW7kfyusMnsMvsN5 2PTEmwKOnY0kfvk 0+MFkzKY-UqTX7YZdZnMwxJMyqhyqiyqjyqkyqlyqm",
   "yqnyqoyqpyqqyqryqsyqtyquyqvyqwyqxyqyyqzyq+yq-yr0yr1yr2yr3yr4 B8VNBQac+p6V 8cd8nDFMnQPae98gVqsg",
   "vuEdvLiwy8-1t 2vzQw5X4shEbrwduwM dfLlSPo0M 4lu4lv4lw4lx4ly4lz4l+4l-4m04m14m24m34m44m54m64m74m8",
   "4m94mA4mB4mC4mD4mE4mF4mG4mH8VhBN6HfyR-nTJpTJtTJxZtcmtUvIZxACydv+Xo-bw AznMb0OMJOXBTyEUetXb4nfC",
   "oFNs2Bt30t7zzZqzZrzZszZtzZuzZvzZwzZxzZyzZzzZ+zZ-za0za1za2za3za4za5za6za7za8za9zaBzaD 9K8AIqS2S",
   "XiXzQL 61uAATSkEVXEZbSnKuvO3 DR+gNIusb Fq2InwLhAhC3oOgwM-xk-+Rt LrNab+qhu 2dK54RQe+f8Kotuot+q-",
   "4rHD FeaUmRbCScQocQpcQqcQrcQscQtgiJupX 0Cd6x1EmzTAaWalZVwbcFekQoaw FpTHbmPw+ 5u69j4A+tBtYTJWqe",
   "TrrJvfM RkgUSSunBunFunJunPvBnx40 8XmB+FCatJU9Kn6bwtcjzrVu 1apXNhXNlXNpXNvXN- 1djSL2SOWjt-ju7th",
   "Y EM4MwLjAvlD3 1fJQt0cxpiU+iU-iV0iV1iV2iV3iV5iV6 3T1MOKMbDbj2q8Mq8vq9etI6yHWzR2zRAzRM 3PG8BMbE",
   "Ke4vp4erO8xTCzhs 0TSLpwNTVPnGSXYTGrXXNZM6xmF 5JjGoiRkZWe0We1We2We3We5We6bN8i5yykI+mv+mw+mx+my+",
   "mz+m++m-+n0+n1+n2+n3+n4+n5+n6+n7+n8+n9+nA+nB+nC+nD+nE+nF+nG+nH+nI d0beIhkCh+9p EJfGy3qJ7wHD NT",
   "bNVHRFFlvIsFJwqP HBqKn3Kn4Kn6Kn7Kn8Kn9KnAKnBKnCzou 19y2AH6uOK2mOvSSRknZUuMQ 0fU3BZ4i1ETqGu3NgW",
   "qnn 1W8BeCHIuZCJZCLa2LjSFlS6snNsnRsnVsnbsnh 8w68w78w88wA8wB8wC8wD8wE8wFXS9apkf9v Gb5IpNKSZgcX+",
   "S0+SB+SF+SJ+xu UqbW8PqTG-nF Xy+fWUhRCkr7w97z39z3Az3Bz3Ez3Gz3Hz3I-bc B0OBlXBvvKVHMtIimj 0+x4jq6",
   "Ke6Ki6KuOPHWNJWO9eRzgHrqLUtxo+Ae+Ai+Ao 7AdBlmFlbKToRZZRZtcatdtnpwI BQbSrZV+HXYwejBezJi2KnCCnCD",
   "nCEnCFnCGnCHnCInCJnCL-LF FbtKFIQC0dcJw5gwT- 8iqErHK5yMDb M8RO+uO+yO-0O-6O-Ce3LrBh+ur 0TU4rB79+",
   "7AIA1nCKkbLIbLJbLKbLLbLNbLO 5IKLBEnXM 7nWCsjF8hpjGpjKpjOpjTpjUpja N2SSCOpbipzes0H 73NPUIPUJPUK",
   "PULPUMPUNPUOPUPPUQPURQpbtWPvv8 88cCs6E9dK7HTXdVNgVNkVNoX8zfPijrj RVTXCwbgcbykkukvBm 9KkGLfRSAX",
   "4selai82 4I37tcDdLDdMDdNDdODdPDdQDdRDdSDdTDdUGqeIQSPC0Qg6oB-x+m GAdUZYnCTnCjox1vEvwmWwmXwmY JA",
   "olmjmkV 1g24UU6jq9WdDTDP0MSudqusvXK 1mP1mQ1mS1mT1mU1mWIKElqS-jA 5uSC1INMDdNFlG9lSvtITtIXtIb Js",
   "cVSdYwHh9IlwnxvZ 19l4F84FC4FG4FM4FSFhNIrNaMQ 3sM8P4MdgTuCWq+xox 4l1BNNBVKLCxLCySZXdgjkltl2Sxf1",
   " UR2i4AimasCIy8u yBuyBvyBwyBxyByyBzyB+yB-yC0 5yEcpRdxLmSWoHrrHp-eX JHXLkaOsvnBH ETdWvdgvKg+Vk8",
   "anKknxJtV3vDt LeSkiTmKwmKxmKymKzmK+mK-mL0mL1mL2mL3oAAwHpyev 7DWGF5HvLHvTmuMpnQyC+ 3EG6T7CroODL",
   "tWLtf3 DF4L2gb-D A5hGUlN4GXFvaTzaT+aT-aU0aU1aU2aU3aU4aU5aU6-Kx-aU 3fiUHbck3dwPrDg X1s 9C1AS-Ad",
   "LOi1WZWaQCf9W MzDOd0Od1Od2Od3Od4Od6Od7Od8dOp IGSOb2SgzfDkq0JzvV IRROseTRaUdezKm 8D2HymJ1XO2WPw",
   "apr3+Xf 5Qj9P-Sv9TV5VB0VBBh4EkKcw4d 0pp0ps10mbmLcj+m8km8prCKs33 8jA9JHQsXezUhezlpDph9tQKx2m PR",
   "fV6RyGb 27T6ttC18VhdVheVhfVhgVhhVhiVhjhQypxBxxJz7S A8OCh-K4F 7TWJKyJLVJtpPUNUy8YV2bG7gcuwUA+hd",
   " 3wHEh-rJoraQ+oc 4PO8HXAtXIbLMNNROARjtiDwuUpzJ1 CRtMRZMRfOhtw2m DTbDTcDTdOZRPlvUPzeGjpzt AuIHZ",
   "oUkUk6It-9yDA 3JnAnWBhmZlOcghfkaidekURkUf A7CE8BYD9uA2 7xy8OVKUaP4KP4WUo2Uo6UoIVCyYHstDO FHeYK",
   "F-S6 2sY9rtHZbh4KisBlvB+zv-6T 5+f9k++b7 4Hj8TGLmXp0VxTG AzIFncJIMl1NpPS GGIP-tb4qbsg+HZ KgKOzD",
   "foxq8Lq9Ox9B F+6HTaV4zXkOnI+vgtyc3 40oTp3clDwit 14g4Lh4Lk4UfYhUh5ouv1zkt DaqYTQld6mTGv1nv+hwF4",
   " 61RJTiasjmuKpQ1yHj 0qA15x5mt8RyCO+OeavzGzC2 0v9RLtXhQxyL 8d4SoYdtRdtVdtZdtfdtlptt-uj C5mG3mJk",
   "kVux mCvnKt IFlhOVr3Ur3Vr3Wr3Xr3Yr3Zr3ar3br3cr3dr3er3fr3gr3hr3ir3jr3kr3lr3mr3nr3or3pr3qr3rr3sr",
   "3twjH 0EA4L14ZKGxbJtLUpDiqF A5T 8FTE1lE1mE1nXBsYareQ4eQ5eQ6eQ7eQ8eQ9eQAeQCeQDeQEeQFeQGeQHeQIeQ",
   "JeQKeQLeQMeQNeQOeQPeQQeQReQSeQTfQhsMhxlq GwvIteJlXgCn 1Hnd05d6Jfjpi1PxoG 1HpF4xbv2wY0 1kM4gv4i",
   "TVlHq9Cq9I+FN+FY+Fc+Fg F+yMQDaktvDhy9V 5IoINaJGkL8AQcarnX gdi Dm4QG+QH3TQ+XuSlycsgRuG8yKf AVXQ",
   "0BbFMihHlEzloVp6Uscly7H RJUfEsfEwfE+fFAsXstN1wzg IXK 1vH2-yC5oXsEYDHZIpioEl+AsZ4uzVuze 1-xScsV",
   "UyXVtf3bx27 5NE8-vBeWWM4hW4lJy 2ht4mk8R2ImpQwXQwfQwrkCkn18 4dc6wxDR0J7Rmz6 5VhHp7KljVceVlbhM4r",
   "y3 OevVf7b+cy6VzIX 9-xF3aW9jgBT 3E-6EKQBXXFvfB8ibOrSjrSkrSlrSmrSnrSorSprSqrSr DgzPY9Rt0WaNZKDZ",
   "KHZKLZKRZKXwYiy3ty-K 8Aw9uBD-9FgMFgNFgOFgPFgQFgRFgSFgTFgUJoYZ6IfvAfvj+rS+ra 3CdAHXANVUKCWMpZ6j",
   "kKl 6Qs9spLSGWGjfblfbmfbnfbofbpfbqfbrfbsfbtfbugcJrYSxc0xc1xc2xc3xc4xc5xc6zwo 8FYCI2GvWKPVLqjcp",
   "JkHioiP+6G 7xDDAdHwAHwEHwIHwUT12WCpdDAh09tLgziB 3JPOrXdu1t5qt5ut5y TkoTkpTkqTkrTksTktTkuTkvTkw",
   "TkxZUusovxBU 1M5BcNPLTeKGwwGy4GyrC 4f44-6DqfDqlHgtUhBpZ5qMrrdqsYvsYzsZ1sZ7sZD COyX7FmoftQX AsA",
   "HtrHtsHttHtuHtvHtwHtxHtyHtzHt+IfqK9PK9gK9lU-nf8XjsImXewYo+H6+Rk MZoZZQc8zl3Ml3ymxoq9K P8EQjsX5",
   "1dVjelFhZYhZchZghbVwlZwr1 AXZHmSIMd 60u60v60w60x60y60z60+60-610611Df2DpiH7CLzrLzvL+3L+9L+AL+DT",
   "SHiNzrN3tLsuEkvSG 3Lg 6uQCvqFbkJmpMpwR7SSZo+ZU+wD BVSH1nPVpPYQX6xYGpw9xw9y TnEdBDdf2e1Se1We1ae",
   "1ge1mes8iDblNUzBX A76BsvE7IaHEcsr 2i72lf7vsF9FI+6I+FJreWHvjpnoS-s8K K0bQ6AdeAeKQgUpkzawVfwVjwV",
   "twVzwV+wW1 04kGEuHOmMhMTJJVr7kYbthXy11 ceWgzYpY4y31+kP J0tZ8Qf7Oq-b 0+IE0VENWNH6OYDPfIe7qoPNtd",
   "LuWc B-ROA5PMBYzhZw4wXf 0nVCQjUqJmBy 9kNAFFY1yYEXYl7YlLYlSYlUly5ly6lyAlyExxO 6du6dv6e06eAFcKOs",
   "jPLIcYKzOm xk1 7WhLDzOwETNBaK-aOd AklByOGLLKl+VgIVgMVgQVgWVgcrxQvMqxXW 2ozEveMxBSY+XuVeixfetgF",
   "9ko-tA4 GSQLmVLmZLmdLmiLmjLmpQF3SLGSLQSLWdNGgPekc2t4Ev7H 8rmGunOU2Yvkbdwfpk CquFS2GeONlEctmstE",
   " 7wzB48Q9zREOTWzVfCWHwol4xJ+ 2DuhjWlIuudZzLF 3BSCd5ECEgwWsWHtPs QW4eiH ENMHg0K1JekHs1psG4wGDwG",
   "EwGFwGG HLhhBtpMP 0m84vJ7NDKwMWsSXJh 6lSRElbraecWgWNgWRgWVgWbqUFt6V 1f85p35sMJ3xL0nTEhUulkPHkP",
   "IkPJmqJsXhz-v 5Uo7RQQj1wqc 53LA6rHm7VRGaFUd7Hvxo DibNcGdVJhsPvy6vyAw2Z FJmQUOYRXYYLYYMasaasbas",
   "gazMfZS-kU 0j-f2E 5L-G79IxAMD+OgiUUbXq5wZ7ycB ChmQD5ReJddHw6Q 5BxMhPP6LP6PUgp 4ElgRHhmA 080CZw",
   "Ka+PCDRHolNMtj3vXf+DH BAwJXVYECgsJs9ot-f XA-ZG0mXht2zuGO 0kNF-6HKKSOkZxhlRCrLArdH FAxFAyFAzFA+",
   "FA-FB0FB1yjE 9esMNFMWaOVUbcwj6zjyNjyOjyPjyQjyRjySjyTqzHveL H1tOA-R31WKir8i 1jl5TNBHBG4YRjdXybX",
   "yjXyvg8cj7qnTj AW2EJmSfxXmwauXcLGu3Jxpb 0028T0AWICcaKEth2eh4EouLrXYtVTuhT ABzcugfu+h1wvcQ 8O8M",
   "5ePdK 2ajD4ZKFDRnRRnbTkEibglydlyjlypsT7uGwxRByn4+fL+fP 88o8NwX0wfgblRvn8Yn8fogcvDRvjkvjlvjmvjn",
   "vjovjpvjqvjrvjsvjtvj-vk0vk1vk2vk3vk4 IH3NyEWLkbF7jlnkjYkjZkjakjbkjckjdkjekjfnvY-VO AEhBsLOY0OY",
   "4OY8OYEPdBPkPUIGUIHUIIUIJUIKUILUIMUINUIOUIQUIRUISUITUIUUIVUIXUIYUIZUIaUIbUIcUIdUIfhFmt6H 1VU5s",
   "YTzOWLPkMxooOooSoocxHo 2cH6Bs89ebEZjsnjsojspjsqjsrjssjstjsujsvjswjt2jt3jt4jt5jt6jt7 0P70-7VXtq",
   "Edqsrqssqstqsuqsv+Nk 01WAHvDx6OJci1Ek7XpOK 9EHKURKUXKUds99z08 2RfIdkX-qX-rX-sX-tX-uX-vX-wX-xX-",
   "yX-zY05Y06Y07Y08Y09Y0Aru6 B+uM76MWeaZxcppfH+k2-q8Rww2 5jw8fxOVpOVqOVrOVsOVtOVuOVvOVwOVxOVycM-g",
   "mPiNm--k 1Q-9AreGCfhBm6rxW7xcuyOj 0F765kM8tM8uM8vM8wM8xM8yM8zM8+M8-M90M98M99M9AM9BM9CM9DYgQa5Q",
   "dFvfR+g+LumN DpLcj1vmv CesCetCeuCevCewCexCeyCezCe+Ce-iLeiLfiLgiLhiLiiLjiLkiLmiLniLoiLpiLqiLsiL",
   "uiLviLwiLyiM0qPF AjRAjlDLGEKOEKPEKQFDXKqtTZjYNdb-Bm+Du1Wzki 5xXAHwAHxAHyAHzAH+AH-AI0AI1AI2AI3A",
   "IBAICAIDAIEAIFAIGAM+eKE+Jf+Xh 1yOQotUrqUruUryUs2Us8Us9ccg 0nv0nw0nx0ny0nz0n+0n-0o00o10o21aX3MS",
   "BAdIFEOjgOjhOjiOjjOjkOjlOjmOjnOjoOjpOjqOjrOjsOjtOjuOjvOjwOjxOjyOjzOj+Oj-Ok0Ok1Ok2Ok3TV2cEdhFnq",
   "g7tVX 2TR2TSYKHylt+Qz+Q++Q-+R0+R1+R2+R3+R4+R5+R6+RE+RF+RG+RH+RI+RJ CnwHdfIcRLMSjBarUIs5Rx4P 4-",
   "PExwGZaMp9hz5kd+m6AmNvqwyqwzqw-qx0qx1qx2qx3qx4qx5 0UuG2DL1gXujsFutVd 1OcJhnTFDZpUoa0oa1oa2oa3o",
   "a4oa5oa6oa7oa8oa9oaHoaIoaJoaKoaLoaMyQt-1W 4g54g94gD4gJ4gPIBMQ7zblTv8AyPo 355DcrSD6f3-f40f41f42",
   "f43f44f45f46f47f48u+A 0UbOh6PBxSyCv+ov+sv+wv-0v-6 4Do4ox7qUcj3cj4cj5cj6cj7cj8cj9cjAcjBcjCcjKcj",
   "LcjMcjNcjOcjPrad EOjQgJSMQUNXUNYUNZb-WtE0uWGxGzxH1xH5xHBxHHxHI+aB ICsTD2TD3TD4TD5TD6TD7TD8TD9T",
   "DATDBZjDyvx 0oQ1Ce7cdDKfDKjDKnDKpIioSfLc08e7N 4po7QPQs6Qs7Qs8Qs9QsAQsBQsCQsDQsEQsFQsNQsOQsPQsQ",
   "QsRQsSdYLlw0 5FLIWaIWbhN3lQ0lQ4lQ8lQElQKlQLm5t HM5HM6HM7HM8HM9HMAHMBHMCHMDHMESYlg8QnRrvAl 1U0A",
   "TcTPEUyshKvnkQqTG E-9E-AE-BE-CE-DE-EE-FE-GE-HE-IE-QE-RE-SE-TE-UE-VRNGyZc 7N3VW6lSNnMT 0rh5V85V",
   "95VA5VB5VC5VD5VE5VF5VG5VHGWTIGaJZRP1XtMC 61wW6FWXJf3cjESoISp5D 9nYuzvwogwohwoi 9iMC1rJf9LGpR7S",
   "TvYW9rar4hGWsQkveBveCveDveFveGveHveIveJveK 3u84GALZoSY9lSlo53 HaGPBVUn2W-yX9XdE6dEHkhxkh-ki3ki",
   "5mbdv4t 3IIB4NRwuTvFzrK 7oCBr9P-uUpQWz3Wz7WzBWzHWzNbJwe+5hbFjnEjnFjnGjnIjnJjnKjnLjnMjnNlvD lm5",
   "lm6lm7lm8lm9lmAlmBmT3p+orK1 6ilB-zRN9RNL 3M+M7mXHGaoiqYtu++v+Xzm6-+C-+G-+K-+Q-+W-+X KR5LseOLUz",
   "r0  B7FW0Is5YyYu ItkQGySPxc7MkESm4Inhyq7Fq7Jq7Nq7Tq7Zq7asbv 2b68zrSZbrmJynY-Gp Ou6V6yc+L 52A52",
   "F52NAcGFOgO9RO9TO9WO9aO9bO9dO9hO9iO9jO9owO8wOD QGYbq-eGIeGMeGQeGWeGceGdsqG 7ynCK9CKHLvqNdKn3eq",
   "O6 DNpQ+XjXTrQSz+e 8UwQMvQd-U9itV0tV4tV8tVEtVK+m7 LmwOMOPN-QlfTYmXEoZEmk5Gplhwgi 0TN0TPF9keBPi",
   "Jfj7b 1OA ReeoCGtREtRR 6GU6k8CVROczQ0YYEJgdL BfUcRGzFw+ch GcdN3km7Xm7Ym7Zm7am7bm7cm7dm7em7fm7g",
   "m7om7pm7qm7rm7sm7tpmAuE0 K26R5bR5f 0eUJUdMNMelIelQp7Y UhTemFk8wntg Gn1KDRKDjLcTLcVM4MaGaaGbaGc",
   "aGdaGeaGfaGgaGhaGiaGjaGraGsaGtaGuaGvaGwg2ilWKlppnp3 Uc7dgeqnr PdyRbafyf HsnWLVdXgnqvoUJqovtE-v",
   "1L-0A-id IwNOPdOPeOPfOPgOPhOPiOPjOPkOPlOPmOPuOPvOPwOPxOPyOPzPLnU1RU1SU1TZ5RZ5SZ5TZ5UZ5VZ5WZ5XZ",
   "5YZ5ZpNRtIH JsfNtKNxcWieWimewagYEizXizbizfizlizrizs 4BjDXLD+0EkyPvnV0KV0OV0SV0YjvrkcfkchusA Go",
   "NGoTf5Ug0+p4DtjX CYgCYhCYiCYjCYkCYlCYmCYnCYoCYpCYxCYyCYzCY+CY-CZ0Hh+LhuNETNEUNEVNEWNEXNEYNEZNE",
   "aNEbNEcQ9+iyglgl 5Wh7AGJ6qX6aX6eX6ifBDooVorJorR+zn 6XY7OKP75cgim+J LHhfEEgnz 0hj0hk0hl0hm0hn0h",
   "o0hp0hq0hr0hs0h+0h-0i00i10i20i39kuBNWBNXBNYBNZBNaBNbBNcBNdBNeBNfZV5nClqBW E2YKu9KuOcxYeCgt9Atu",
   "F 78pGKAUKtafAfgwyNx 7IoCkdKnPcAZcAjcAkggeqqmqqnqqoqqpqqqqqrqqsqqtqquqqvqr1qr2wt6-WZ-Wa-Wb-Wc-",
   "Wd-We-Wf-Wg-Wh-Wi 06k17wXiPjgIkJkkK6z7v 5Lj5XAB+BB+JhUwhUxhUyhUzhU+hU-hV0hV1hV2hV3jSXkpepDt 0R",
   "ZBQjXoTaGtaH6qhd 5v-5wJcn+m6zpfcpfdpfepffpfgpfhpfipfjpfkpfl K2rO5YWDZwgqzXjzXnzXrzXxzY1zY2zuh ",
   "3XPFDeHrUUURUUbUUhVdzVd+XbiYyhkvQw2N 3n69BpIQMSLwpJS 3TE3vEMbLUT6bdadofdogdohdoidojdokdoldomdo",
   "ndoonWQnWYnWenWkvGS IZFPzCT7iaLt 3MhLkhN5o 0FEVU+co3yFW 2bb2bf2bj2bp2bv8GZJVRKs+PA+RxiRxjRxkRx",
   "lRxmRxnRxoRxpRxqRxrWKyX7Nf4Dgy+o1A VZQbppbptbpxbq1bq7bq8tVk 26Q3v2BEnNfrdWUhBuzjj EkSzG9 8vYBR",
   "IG4lG4mG4nG4oG4pG4qG4rG4sG4tG4urmSwTT Bz6J7sJwvLFChenoKF+0j-Nq 3fO4QsHG0JHcNAwlSrmx8ubpzr2-YU-",
   "hb-hf 4QP7KcHLMaisqKf+MU 4Do4Dp4Dq4Dr4Ds4Dt4Du4Dv4Dw4DxNMHOQbPj8U0SdGF 39ySTmVnqcN2oTUpWt 8mNF",
   "UPWl7YBBZO6 5xqTa7V0lV0rV13kK7o8BsQIuMruMsuMtuMuuMvuMwuMxuMyuMzuM+w1u-rl 11KECaMJ0SYaW91ZFAaC6",
   "cWLnEjqF3tq9vL2xd4 50+Kh6k1N 3um88qFD-FE0FE1FE2FE3FE4FE6FE7FE8JehLEWN1CsWouaguam 0C8B5bNtPe7ms",
   "mA 7gd92YI9HKqKMUlyNh-z4 83wSO+YFfYFjeRwziszvT"]

/-- The rows of prints in one text. -/
def printLines : List String := printLinesA ++ printLinesB ++ printLinesC ++ printLinesD

end Literal
end LineMetrics
