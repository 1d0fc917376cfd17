import Switchyard.Text.Unicode.Property
/-!
# Ages

The `Age` property of Unicode 16.0: the version of the standard in which each code point was
assigned. A pattern names a version with `\p{Age=V}` and means every code point assigned in
that version or an earlier one, so that a version's class holds the classes of all versions
before it.

The ages are kept as runs (see `readRuns`) whose value is the number of a version: its place
in `ageNames`, oldest first. Code points not assigned yet have the number after the last
version.
-/
namespace Switchyard.Unicode

/-- The versions of the standard by their names in loose form, oldest first: the number as
written and the `V` form of the long name. -/
def ageNames : Array (List String) := #[
  ["1.1", "v11"], ["2.0", "v20"], ["2.1", "v21"], ["3.0", "v30"], ["3.1", "v31"],
  ["3.2", "v32"], ["4.0", "v40"], ["4.1", "v41"], ["5.0", "v50"], ["5.1", "v51"],
  ["5.2", "v52"], ["6.0", "v60"], ["6.1", "v61"], ["6.2", "v62"], ["6.3", "v63"],
  ["7.0", "v70"], ["8.0", "v80"], ["9.0", "v90"], ["10.0", "v100"], ["11.0", "v110"],
  ["12.0", "v120"], ["12.1", "v121"], ["13.0", "v130"], ["14.0", "v140"], ["15.0", "v150"],
  ["15.1", "v151"], ["16.0", "v160"]]

/-- The runs of the `Age` property. -/
def ageText : String :=
  "0.0 502.3 4.0 30.3 8.5 1.6 1.3 18.6 3.7 11.8 14.0 89.3 5.6 2.0 47.3 1.0 10.3 5.6 17.0 70.3 " ++
  "9.5 1.6 8.7 5.6 3.0 2.3 1.5 13.9 4.0 2.9 2.27 2.0 1.8 3.0 1.15 1.27 4.0 7.27 1.0 1.27 1.0 " ++
  "20.27 1.0 44.9 1.0 7.3 1.5 2.0 1.3 1.0 1.3 1.0 1.3 1.0 1.3 1.0 18.4 2.5 1.6 5.7 4.3 1.0 12.3 " ++
  "1.0 66.3 1.0 12.3 1.0 41.9 1.3 2.5 2.3 4.0 53.5 2.0 2.5 2.0 2.5 2.8 1.0 28.3 2.0 8.7 2.0 2.8 " ++
  "6.5 16.8 4.9 16.10 2.11 2.15 8.27 1.0 38.27 2.0 7.19 1.0 39.19 1.0 1.3 1.27 2.15 2.12 1.27 " ++
  "1.1 17.7 1.1 13.0 10.8 1.0 9.1 1.7 3.27 8.0 27.27 4.19 1.0 5.27 11.6 4.12 1.15 1.9 5.7 1.0 " ++
  "1.6 9.9 5.0 1.14 1.23 1.7 1.0 1.11 1.0 26.9 5.0 19.3 3.6 3.7 6.11 1.0 14.5 2.0 72.3 2.0 5.3 " ++
  "1.0 15.3 1.0 30.6 2.0 10.3 5.6 1.3 14.27 1.3 30.6 3.3 27.27 2.6 3.7 30.9 18.3 49.5 1.27 14.8 " ++
  "59.27 2.19 3.10 46.27 2.10 15.27 1.11 28.27 2.11 1.27 1.18 11.27 5.23 31.27 1.23 2.27 5.26 " ++
  "1.23 8.12 1.15 1.12 11.15 6.16 2.23 1.17 8.22 10.23 11.19 1.17 15.16 1.12 27.15 1.10 1.0 3.6 " ++
  "1.0 53.11 2.0 18.10 1.11 1.0 5.10 1.11 2.0 25.9 2.11 5.15 1.10 2.8 2.7 1.8 2.15 1.0 3.27 1.0 " ++
  "8.27 2.0 2.27 2.0 22.27 1.0 7.27 1.0 1.27 3.0 4.27 2.0 1.6 1.0 7.27 2.0 2.27 2.0 3.7 1.27 " ++
  "8.0 1.27 4.0 2.27 1.0 5.27 2.0 21.10 1.18 2.19 1.27 2.6 1.0 1.6 1.27 1.0 6.27 4.0 2.27 2.0 " ++
  "22.27 1.0 7.27 1.0 2.27 1.0 2.27 1.0 2.27 2.0 1.27 1.0 5.27 4.0 2.27 2.0 3.27 3.9 1.27 7.0 " ++
  "4.27 1.0 1.27 7.0 15.9 1.19 1.27 10.0 3.27 1.0 7.6 1.0 1.27 1.0 3.27 1.0 22.27 1.0 7.27 1.0 " ++
  "2.27 1.0 5.27 2.0 10.27 1.0 3.27 1.0 3.27 2.0 1.27 15.0 1.6 3.27 2.0 10.12 1.6 1.27 7.16 " ++
  "1.18 6.27 1.0 3.27 1.0 8.27 2.0 2.27 2.0 22.27 1.0 7.27 1.0 2.27 1.6 1.0 4.27 2.0 8.9 1.27 " ++
  "2.0 2.27 2.0 3.27 7.22 1.0 2.27 4.0 2.27 1.0 3.9 2.27 2.0 11.6 1.11 6.27 10.0 2.27 1.0 6.27 " ++
  "3.0 3.27 1.0 4.27 3.0 2.27 1.0 1.27 1.0 2.27 3.0 2.27 3.0 3.27 3.0 8.7 1.0 3.27 4.0 5.27 3.0 " ++
  "3.27 1.0 4.27 2.9 1.27 6.0 1.27 14.7 1.0 12.6 8.27 5.15 1.0 3.19 1.0 8.27 1.0 3.27 1.0 23.27 " ++
  "1.0 10.15 1.0 5.27 2.23 1.9 1.0 7.27 1.0 3.27 1.0 4.27 7.0 2.27 1.9 2.16 1.27 2.23 1.27 2.0 " ++
  "2.9 2.27 2.0 10.27 7.20 1.9 8.17 1.15 1.0 2.19 1.0 8.27 1.0 3.27 1.0 23.27 1.0 10.27 1.0 " ++
  "5.27 2.6 2.0 7.27 1.0 3.27 1.0 4.27 7.0 2.27 6.23 1.0 1.27 1.0 2.8 2.27 2.0 10.27 1.8 2.24 " ++
  "1.27 12.18 1.15 1.0 2.22 1.0 8.27 1.0 3.27 1.0 23.11 1.0 16.11 1.18 2.9 1.0 6.9 1.27 1.0 " ++
  "3.27 1.0 4.11 1.17 1.27 4.17 3.0 1.17 7.16 1.0 2.9 2.27 2.0 10.9 6.17 3.9 7.27 1.22 1.3 2.27 " ++
  "1.3 18.27 3.3 24.27 1.3 9.27 1.3 1.27 2.3 7.27 3.3 1.27 4.3 6.27 1.3 1.27 1.3 8.27 6.15 " ++
  "10.27 2.3 3.27 12.0 58.27 4.0 29.27 37.0 2.27 1.0 1.27 1.20 1.0 2.20 1.0 1.27 1.20 1.0 1.20 " ++
  "6.0 4.20 1.0 7.20 1.0 3.27 1.0 1.27 1.0 1.20 2.0 2.20 1.0 13.20 1.0 3.27 2.0 5.27 1.0 1.27 " ++
  "1.0 6.24 1.27 1.0 10.27 2.0 2.12 2.27 32.1 72.27 1.1 33.3 1.9 2.27 4.1 27.11 4.1 6.3 1.1 " ++
  "1.27 1.1 21.3 3.1 7.3 1.1 1.3 3.27 1.3 15.27 1.9 1.3 1.7 2.9 3.10 4.11 2.27 37.3 34.9 1.3 " ++
  "5.9 1.3 2.9 1.3 7.9 3.3 4.9 6.3 26.9 64.10 4.9 2.0 38.27 1.12 1.27 5.12 1.27 2.0 39.5 2.7 " ++
  "2.0 1.7 1.12 3.0 90.10 5.0 68.10 5.0 82.10 6.3 7.7 1.3 63.7 1.3 1.27 1.3 4.27 2.3 7.27 1.3 " ++
  "1.27 1.3 4.27 2.3 39.7 1.3 1.27 1.3 4.27 2.3 31.7 1.3 1.27 1.3 4.27 2.3 7.27 1.3 1.27 1.3 " ++
  "4.27 2.3 7.7 1.3 7.27 1.3 23.7 1.3 31.7 1.3 1.27 1.3 4.27 2.3 7.7 1.3 39.7 1.3 19.27 2.11 " ++
  "2.7 2.3 28.27 3.7 26.27 6.3 85.16 1.27 2.16 6.27 2.10 1.3 630.10 9.3 29.27 3.3 81.15 8.27 " ++
  "7.5 13.23 1.5 7.23 1.27 9.23 1.5 23.27 9.5 20.27 12.5 13.27 1.5 3.27 1.5 2.27 12.3 93.6 1.27 " ++
  "2.3 10.27 6.6 10.27 6.3 15.23 1.3 10.27 6.3 88.19 1.27 7.3 42.9 1.27 5.10 70.27 10.6 29.15 " ++
  "2.27 1.6 12.27 4.6 12.27 4.6 1.27 3.6 42.27 2.6 5.27 11.7 42.10 2.27 4.7 26.27 6.7 10.10 " ++
  "1.27 3.7 2.6 32.7 28.27 2.7 2.10 63.27 1.10 29.27 2.10 11.27 6.10 10.27 6.10 14.27 2.15 " ++
  "15.22 2.23 14.27 49.8 76.23 1.27 1.26 2.8 45.23 2.26 1.9 43.12 3.9 12.12 6.11 52.27 8.11 4.9 " ++
  "56.27 3.9 15.27 3.9 51.17 9.26 2.27 5.19 43.27 2.19 3.12 8.27 8.10 35.12 4.18 1.15 2.20 1.27 " ++
  "5.6 108.7 88.8 7.9 28.15 15.18 4.23 1.17 1.11 1.10 1.8 2.0 155.1 1.9 4.0 90.9 6.0 22.27 2.0 " ++
  "6.27 2.0 38.27 2.0 6.27 2.0 8.27 1.0 1.27 1.0 1.27 1.0 1.27 1.0 31.27 2.0 53.27 1.0 15.27 " ++
  "1.0 14.27 2.0 6.27 1.0 19.27 2.0 3.27 1.0 9.27 1.0 47.3 1.0 23.5 1.3 6.5 5.6 2.7 2.5 1.7 7.5 " ++
  "5.9 1.27 1.14 4.0 7.5 1.27 2.0 27.27 1.7 5.11 8.27 3.0 11.1 1.2 1.3 3.5 2.7 4.10 3.11 1.13 " ++
  "1.15 3.16 1.18 1.23 1.27 15.0 18.3 2.5 7.7 1.8 4.9 1.27 15.0 57.3 2.6 1.7 1.5 15.7 1.8 2.9 " ++
  "1.10 3.0 48.3 1.8 1.9 4.10 1.16 2.27 4.0 91.3 9.5 12.0 242.5 14.0 1.3 1.0 121.3 1.5 1.3 30.5 " ++
  "52.6 2.7 11.8 12.10 1.11 11.15 7.17 4.18 1.0 37.3 2.26 3.27 22.0 11.27 21.0 139.5 20.6 1.0 " ++
  "150.5 10.0 80.3 8.5 8.0 20.6 2.5 2.7 1.3 1.0 86.3 2.5 12.7 2.5 10.6 8.7 11.9 1.10 2.6 2.7 " ++
  "16.8 1.9 10.10 3.9 4.10 10.11 1.10 19.11 1.10 1.11 4.10 24.15 1.0 4.11 1.0 4.11 2.0 28.11 " ++
  "1.0 35.11 1.0 1.11 1.0 4.11 3.0 1.10 1.0 7.11 2.0 7.5 14.0 31.11 3.0 24.11 1.0 14.11 1.7 7.8 " ++
  "4.12 1.9 1.12 1.11 2.5 28.9 4.5 16.3 256.5 512.6 14.7 6.8 7.9 5.8 4.9 41.15 3.9 5.10 5.15 " ++
  "26.27 2.15 32.27 1.22 1.15 34.19 3.15 12.20 1.15 8.18 1.19 25.16 4.19 15.20 1.7 47.23 1.7 " ++
  "47.23 1.8 13.9 3.10 1.9 3.8 4.9 6.10 2.7 107.10 7.12 2.27 5.7 45.27 1.12 1.27 5.12 1.27 2.7 " ++
  "54.12 2.27 7.7 1.11 1.27 14.11 1.7 23.27 9.7 7.27 1.7 7.27 1.7 7.27 1.7 7.27 1.7 7.27 1.7 " ++
  "7.27 1.7 7.27 1.7 7.27 1.9 32.7 24.9 4.7 2.9 19.10 1.12 10.15 7.17 2.18 5.19 5.20 1.22 3.23 " ++
  "11.27 34.3 26.27 1.3 89.27 12.3 214.27 26.3 12.25 4.0 56.3 3.5 3.3 1.0 1.27 1.0 84.5 2.27 " ++
  "2.0 6.5 2.0 94.5 1.27 5.0 40.9 1.18 1.19 1.27 1.0 94.27 1.0 16.3 24.11 3.22 5.7 16.9 20.26 " ++
  "2.27 9.25 1.5 16.0 29.6 2.27 1.0 36.10 12.6 1.5 15.0 28.6 2.7 1.0 50.5 15.0 12.6 4.0 47.21 " ++
  "1.0 119.6 4.0 99.6 2.0 31.6 1.3 6582.22 10.6 64.0 20902.7 22.9 8.10 8.12 1.16 9.18 21.19 " ++
  "5.22 13.23 3.3 1165.27 3.3 18.5 2.3 16.5 1.3 12.5 1.3 3.5 1.3 1.27 9.10 48.9 300.27 20.9 " ++
  "32.11 2.9 18.12 8.9 28.15 6.16 1.12 1.10 88.27 8.7 23.8 4.9 5.8 2.9 107.11 2.16 1.11 2.12 " ++
  "2.15 12.11 10.12 1.15 3.17 1.19 1.15 2.16 6.19 2.20 6.23 2.20 5.22 4.26 3.27 2.23 2.27 1.23 " ++
  "1.27 1.23 5.26 3.27 21.23 3.22 2.15 1.12 2.11 1.9 5.7 44.22 1.27 3.10 10.27 6.8 56.27 8.9 " ++
  "69.17 1.27 8.9 12.27 6.10 28.16 2.19 2.9 84.27 11.9 1.10 29.27 3.10 78.27 1.10 11.27 4.10 " ++
  "2.15 31.27 1.9 55.27 9.9 14.27 2.9 10.27 2.9 4.10 28.15 4.10 67.27 24.10 5.12 23.27 10.11 " ++
  "6.27 2.11 6.27 2.11 6.27 9.11 7.27 1.11 7.27 1.15 48.16 4.15 2.20 2.22 4.27 4.16 80.10 46.27 " ++
  "2.10 10.27 6.1 11172.27 12.10 23.27 4.10 49.27 4.1 2048.0 6702.12 2.5 59.10 3.27 2.7 106.27 " ++
  "38.0 7.27 12.0 5.27 5.3 1.0 25.27 1.0 5.27 1.0 1.27 1.0 2.27 1.0 2.27 1.0 108.11 16.23 1.27 " ++
  "16.0 365.23 16.0 64.27 2.0 54.27 7.23 1.4 32.0 12.5 1.6 1.23 2.5 16.7 10.27 6.0 4.9 3.15 " ++
  "7.16 2.0 21.5 2.6 2.0 10.27 1.0 19.27 1.0 4.27 4.0 3.5 1.0 1.27 1.0 135.27 2.0 1.27 1.0 94.5 " ++
  "2.0 94.27 3.0 6.27 2.0 6.27 2.0 6.27 2.0 3.27 3.0 7.27 1.0 7.27 10.3 3.2 1.0 3.6 12.27 1.6 " ++
  "26.27 1.6 19.27 1.6 2.27 1.6 15.27 2.6 14.27 34.6 123.27 5.6 3.27 4.6 45.27 3.6 9.7 75.15 " ++
  "2.17 2.27 1.9 12.22 1.27 3.15 1.27 47.9 46.27 130.9 29.27 3.9 49.27 15.15 28.27 4.4 31.15 " ++
  "1.4 4.27 9.18 3.4 27.27 5.15 43.27 5.6 30.27 1.6 1.7 36.27 4.7 14.27 42.4 38.6 2.4 38.6 " ++
  "80.27 2.6 10.27 6.17 36.27 4.17 36.27 4.15 40.27 8.15 52.27 11.15 1.23 11.27 1.23 15.27 1.23 " ++
  "7.27 1.23 2.27 1.23 11.27 1.23 15.27 1.23 7.27 1.23 2.27 3.26 52.27 12.15 311.27 9.15 22.27 " ++
  "10.15 8.27 24.23 6.27 1.23 42.27 1.23 9.27 69.6 6.27 2.6 1.27 1.6 44.27 1.6 2.27 3.6 1.27 " ++
  "2.6 1.10 22.27 1.10 9.15 63.27 8.15 9.27 48.16 19.27 1.16 2.27 5.16 5.8 26.10 2.27 3.8 1.9 " ++
  "26.27 5.9 1.27 64.12 56.27 4.16 2.12 2.16 16.27 2.16 46.7 4.27 1.7 2.27 5.7 8.27 1.7 3.27 " ++
  "1.7 27.19 2.27 2.7 3.27 4.7 9.19 1.27 7.7 9.27 7.10 32.15 32.27 32.15 39.27 4.15 12.27 9.10 " ++
  "54.27 3.10 29.27 2.10 27.27 5.10 8.15 18.27 7.15 4.27 12.15 7.27 80.10 73.27 55.16 51.27 " ++
  "13.16 51.27 7.16 6.19 40.27 8.19 10.27 6.26 38.27 3.26 29.27 8.26 2.27 208.10 31.27 1.22 " ++
  "42.27 1.22 3.27 2.22 2.27 16.26 3.27 55.26 1.24 3.19 40.27 8.19 42.27 22.23 26.27 38.22 " ++
  "28.27 20.20 23.27 9.11 78.27 4.11 30.23 6.27 9.15 1.10 66.23 1.27 10.19 1.27 2.12 25.27 7.12 " ++
  "10.27 6.12 53.27 1.12 14.19 3.22 1.27 8.15 39.27 9.12 73.16 4.15 1.22 2.12 10.15 1.16 5.27 " ++
  "1.15 20.27 11.15 18.27 1.15 43.17 1.24 3.27 62.16 7.27 1.16 1.27 1.16 4.27 1.16 15.27 1.16 " ++
  "11.27 6.15 59.27 5.15 10.27 6.16 1.15 3.27 1.15 8.27 2.15 2.27 2.15 22.27 1.15 7.27 1.15 " ++
  "2.27 1.15 5.27 1.19 1.15 9.27 2.15 2.27 2.15 3.27 2.16 1.27 6.15 1.27 5.15 7.27 2.15 7.27 " ++
  "3.15 5.27 11.26 10.27 1.26 1.27 2.26 1.27 1.26 38.27 1.26 10.27 1.26 1.27 2.26 1.27 1.26 " ++
  "4.27 1.26 10.27 1.26 2.27 8.26 2.27 29.17 90.22 1.17 1.27 1.17 1.19 1.20 1.22 2.27 30.15 " ++
  "72.27 8.15 10.27 166.15 54.27 2.15 18.16 20.27 34.15 69.27 11.15 10.27 6.17 13.27 19.12 " ++
  "56.20 1.23 1.27 6.12 10.27 6.26 20.27 28.16 26.19 1.27 2.16 15.27 4.16 16.23 7.27 185.19 " ++
  "60.27 100.15 83.27 12.15 1.22 7.27 2.22 1.27 2.22 8.27 1.22 2.27 1.22 30.27 1.22 2.27 2.22 " ++
  "12.27 9.22 10.27 70.20 8.27 2.20 46.27 2.20 11.27 27.18 72.27 8.18 52.20 2.18 23.19 1.18 " ++
  "5.27 13.23 16.15 57.27 7.24 10.27 182.26 34.27 14.26 10.27 6.17 9.27 1.17 45.27 1.17 14.27 " ++
  "10.17 29.27 3.17 32.27 2.17 22.27 1.17 14.27 73.18 7.27 1.18 2.27 1.18 44.27 3.18 1.27 1.18 " ++
  "2.27 1.18 9.27 8.18 10.27 6.19 6.27 1.19 2.27 1.19 37.27 1.19 2.27 1.19 6.27 7.19 10.27 " ++
  "310.19 25.27 7.24 17.27 1.24 41.27 3.24 28.26 1.27 85.22 1.27 15.20 50.27 13.20 1.8 879.15 " ++
  "42.16 1.27 102.8 99.15 12.27 1.8 4.15 1.27 11.16 196.27 2636.23 99.27 13.10 1071.24 1.20 " ++
  "9.24 29.27 10.26 3995.27 5.16 583.27 6841.26 58.27 1734.11 569.27 7.15 31.27 1.15 10.27 4.15 " ++
  "2.23 79.27 1.23 10.27 6.15 30.27 2.15 6.27 10.15 70.27 10.15 10.27 1.15 7.27 1.15 21.27 5.15 " ++
  "19.27 432.26 58.27 198.19 91.27 101.12 69.20 6.27 4.20 1.12 47.20 9.27 7.12 17.27 64.17 1.18 " ++
  "1.20 2.22 1.27 11.22 2.27 14.17 6125.19 5.20 6.27 8.17 755.22 483.27 41.26 1.22 9.27 8935.23 " ++
  "4.27 1.23 7.27 1.23 2.27 1.11 2.18 285.23 4.27 15.24 1.27 29.20 3.27 2.24 1.27 14.20 4.27 " ++
  "8.18 396.27 2308.15 107.27 5.15 13.27 3.15 9.27 7.15 10.27 2.15 8.27 3932.26 250.27 6.26 " ++
  "436.27 76.23 46.27 2.23 23.27 9.23 116.27 60.4 246.27 10.4 39.27 2.9 1.4 180.16 11.23 2.27 " ++
  "21.7 70.27 122.24 20.27 12.19 20.27 12.6 87.27 9.8 18.19 7.27 135.4 85.27 1.4 71.27 1.4 2.27 " ++
  "2.4 1.27 2.4 2.27 2.4 4.27 1.4 12.27 1.4 1.27 1.4 4.6 1.4 2.27 1.4 65.27 1.4 4.27 2.4 8.27 " ++
  "1.4 7.27 1.4 28.27 1.4 4.27 1.4 5.27 1.4 1.27 3.4 7.27 1.4 338.7 2.27 2.4 290.8 2.27 2.4 " ++
  "50.16 652.27 15.16 5.27 1.16 15.27 1104.23 31.27 6.24 6.27 213.17 7.27 1.17 17.27 2.17 7.27 " ++
  "1.17 2.27 1.17 5.27 5.24 62.27 33.24 1.27 112.20 45.27 3.20 14.27 2.20 10.27 4.20 2.27 " ++
  "320.23 31.27 17.20 58.27 5.20 1.27 464.24 42.27 214.26 43.27 4.26 1.27 480.23 7.27 1.23 4.27 " ++
  "1.23 2.27 1.23 15.27 1.15 197.27 2.15 16.27 41.17 75.20 1.27 4.17 10.27 4.17 2.27 785.19 " ++
  "68.27 76.20 61.27 194.12 4.27 1.12 27.27 1.12 2.27 1.12 1.27 2.12 1.27 1.12 10.27 1.12 4.27 " ++
  "1.12 1.27 1.12 1.27 6.12 1.27 4.12 1.27 1.12 1.27 1.12 1.27 1.12 3.27 1.12 2.27 1.12 1.27 " ++
  "2.12 1.27 1.12 1.27 1.12 1.27 1.12 1.27 1.12 1.27 1.12 2.27 1.12 1.27 2.12 4.27 1.12 7.27 " ++
  "1.12 4.27 1.12 4.27 1.12 1.27 1.12 10.27 1.12 17.27 5.12 3.27 1.12 5.27 1.12 17.27 52.12 " ++
  "2.27 270.9 44.27 4.9 100.27 12.11 15.27 2.11 14.15 1.27 1.11 15.27 1.11 15.15 22.27 10.10 " ++
  "11.15 2.22 3.10 31.19 1.11 1.10 1.11 11.10 1.11 1.10 1.11 2.10 1.11 3.10 1.11 3.10 5.11 8.10 " ++
  "1.11 7.10 1.11 10.12 2.20 1.22 3.11 9.10 1.11 1.10 2.11 2.10 1.11 10.10 4.11 2.10 1.11 10.17 " ++
  "18.22 1.27 56.11 26.10 1.11 2.27 13.10 34.11 9.17 1.27 4.10 9.27 7.11 2.27 14.18 6.27 154.11 " ++
  "33.15 12.16 3.11 6.15 1.11 70.15 1.16 2.11 20.15 12.11 37.15 1.11 5.15 4.16 5.15 12.11 17.15 " ++
  "7.16 8.11 63.15 1.11 1.15 1.11 182.15 1.11 4.15 2.16 1.11 62.15 2.12 4.15 7.16 5.11 24.15 " ++
  "18.17 1.15 41.17 1.15 86.11 5.12 1.11 16.12 1.11 3.12 1.11 1.12 1.11 1.12 1.11 1.12 1.11 " ++
  "3.12 1.11 6.12 2.11 4.12 1.11 1.12 2.11 4.12 1.11 12.15 2.16 2.11 11.15 48.11 70.15 10.16 " ++
  "1.17 2.18 2.20 1.22 2.27 4.24 1.23 3.15 13.27 3.15 4.17 3.18 2.19 1.20 1.22 2.27 3.11 116.24 " ++
  "3.27 4.24 5.15 85.19 4.24 1.27 6.20 12.27 4.23 1.27 15.15 12.27 4.15 56.27 8.15 10.27 6.15 " ++
  "40.27 8.15 30.27 2.22 2.26 10.27 4.26 2.27 62.18 12.22 1.20 3.16 9.17 6.18 1.17 8.18 8.17 " ++
  "1.18 2.17 12.20 1.17 12.18 1.19 3.17 15.18 13.19 5.20 1.22 1.19 4.22 2.23 1.19 1.20 1.19 " ++
  "4.16 5.17 13.18 6.19 11.22 2.20 6.22 3.20 2.19 10.20 6.16 1.19 2.20 8.22 1.23 1.20 3.18 " ++
  "23.19 25.20 84.27 12.19 14.27 2.20 4.22 1.24 3.20 3.23 2.27 3.20 3.22 4.24 2.26 1.27 5.26 " ++
  "1.20 6.22 19.23 4.24 3.22 7.23 4.24 3.26 1.24 1.22 3.23 3.26 1.27 7.24 2.22 7.23 3.24 2.26 " ++
  "1.27 2.26 1.23 8.24 1.26 1.27 6.23 7.24 2.27 7.22 147.27 1.22 55.26 37.22 10.27 1028.1 2.4 " ++
  "42711.22 7.23 2.27 32.10 4149.23 4.24 1.27 6.11 222.27 2.16 5762.27 14.18 7473.27 15.25 " ++
  "622.27 2466.4 542.27 1504.1 2.22 4939.27 5.24 4192.27 56398.1 2.27 65534.1 2.27 65534.1 2.27 " ++
  "65534.1 2.27 65534.1 2.27 65534.1 2.27 65534.1 2.27 65534.1 2.27 65534.1 2.27 65534.1 2.27 " ++
  "65534.1 2.27 1.4 1.27 30.4 96.27 128.6 240.27 65038.1"

/-- The number of the version a loose name names. -/
def age? (name : String) : Option Nat := ageNames.findIdx? (·.contains name)

/-- The inversion list of the code points assigned in the version numbered `version` or in an
earlier one. -/
def ageBoundaries (version : Nat) : Array Nat :=
  runBoundaries (readRuns ageText) fun ages => ages.any (· ≤ version)

end Switchyard.Unicode
