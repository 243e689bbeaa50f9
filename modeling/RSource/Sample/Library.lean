import RSource.FileTree

/-! # A sample library

A small library of four packages, to try the package index on. -/

namespace RSource.Sample

structure Package where
  name : String
  fields : String
  directives : String
  sources : List (String × String)

def aovFormals : String :=
  "formula, data = NULL, projections = FALSE, qr = TRUE, contrasts = NULL, ..."

def legendFormals : String :=
  "x, y = NULL, legend, fill = NULL, col = par(\"col\"), border = \"black\", lty, lwd, pch, "
    ++ "angle = 45, density = NULL, bty = \"o\", bg = par(\"bg\"), box.lwd = par(\"lwd\"), "
    ++ "box.lty = par(\"lty\"), box.col = par(\"fg\"), pt.bg = NA, cex = 1, pt.cex = cex, "
    ++ "pt.lwd = lwd, xjust = 0, yjust = 1, x.intersp = 1, y.intersp = 1, adj = c(0, 0.5), "
    ++ "text.width = NULL, text.col = par(\"col\"), text.font = NULL, "
    ++ "merge = do.lines && has.pch, trace = FALSE, plot = TRUE, ncol = 1, horiz = FALSE, "
    ++ "title = NULL, inset = 0, xpd, title.col = text.col[1], title.adj = 0.5, seg.len = 2"

def packages : List Package :=
  [{ name := "base"
     fields := "Title: The R Base Package\n"
     directives := "exportPattern(\"^[^\\\\.]\")\n"
     sources := [("base.R",
       "paste <- function(..., sep = \" \", collapse = NULL, recycle0 = FALSE) NULL\n"
         ++ "print <- function(x, ...) UseMethod(\"print\")\n"
         ++ ".internal_helper <- function(x) x\n")] },
   { name := "stats"
     fields := "Title: The R Stats Package\nDescription: R statistical functions.\n"
     directives := "export(aov, lm)\nS3method(print, aov)\n"
     sources := [("aov.R",
       "aov <- function(" ++ aovFormals ++ ") \x7b\n  aov_helper(formula)\n\x7d\n"
         ++ "aov_helper <- function(f) f\n"
         ++ "print.aov <- function(x, intercept = FALSE, "
         ++ "tol = sqrt(.Machine$double.eps), ...) invisible(x)\n"),
       ("lm.R",
         "lm <- function(formula, data, subset, weights, na.action, method = \"qr\", ...) "
           ++ "NULL\n")] },
   { name := "graphics"
     fields := "Title: The R Graphics Package\nDepends: R (>= 4.0.0), grDevices\n"
     directives := "export(legend)\nexport(plot)\n"
     sources := [("legend.R",
       "legend <- function(" ++ legendFormals ++ ") \x7b\n  invisible(NULL)\n\x7d\n"),
       ("plot.R", "plot <- function(x, y, ...) UseMethod(\"plot\")\n")] },
   { name := "utils"
     fields := "Title: The R Utils Package\n"
     directives := "export(head)\n"
     sources := [("head.R", "head <- function(x, ...) UseMethod(\"head\")\n")] }]

def Package.writeTo (p : Package) (root : Position) (modified : Nat) (t : FileTree) : FileTree :=
  let dir := root ++ [p.name]
  let write (t : FileTree) (path : Position) (content : String) : FileTree :=
    t.write path (.text content.toList) modified
  let t := (t.makeDirectories (dir ++ ["R"]))
  let t := write t (dir ++ ["DESCRIPTION"])
    ("Package: " ++ p.name ++ "\nVersion: 1.0.0\n" ++ p.fields)
  let t := write t (dir ++ ["NAMESPACE"]) p.directives
  p.sources.foldl (fun t (name, content) => write t (dir ++ ["R", name]) content) t

def writeLibrary (root : Position) (modified : Nat) (t : FileTree) : FileTree :=
  packages.foldl (fun t p => p.writeTo root modified t) t

end RSource.Sample
